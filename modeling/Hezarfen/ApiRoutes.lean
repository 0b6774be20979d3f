import Mathlib.Data.List.Basic
import Mathlib.Data.String.Basic

/-!
# The route table

The templates that the router of the application serves and the methods that each of them
answers, nest by nest.  The interactive documentation, which is generated, is left out.
-/

namespace Hezarfen.Web

inductive Method where
  | get
  | post
  | put
  | patch
  | delete
  deriving DecidableEq

structure Route where
  template : String
  methods : List Method
  deriving DecidableEq

def Route.answersGet (route : Route) : Bool := route.methods.contains .get

/-- The route `/` of a nest is the nest itself. -/
def nest (mount : String) (routes : List Route) : List Route :=
  routes.map fun route =>
    { route with template := if route.template = "/" then mount else mount ++ route.template }

/-! ## The nests -/

def academicYearsRoutes : List Route :=
  [⟨"/", [.get, .post]⟩, ⟨"/{id}", [.get, .patch, .delete]⟩, ⟨"/{id}/archive", [.post]⟩,
    ⟨"/{id}/rollover", [.post]⟩]

def aiRoutes : List Route :=
  [⟨"/certificate", [.get]⟩, ⟨"/capabilities", [.get]⟩]

def appointmentsRoutes : List Route :=
  [⟨"/slots", [.get, .post]⟩, ⟨"/slots/{id}", [.delete]⟩, ⟨"/slots/series/{series}", [.delete]⟩,
    ⟨"/", [.get, .post]⟩, ⟨"/{id}/approve", [.patch]⟩, ⟨"/{id}/reject", [.patch]⟩,
    ⟨"/{id}/cancel", [.patch]⟩, ⟨"/{id}/reschedule", [.patch]⟩,
    ⟨"/{id}/reschedule/accept", [.patch]⟩, ⟨"/{id}/reschedule/decline", [.patch]⟩]

def attendanceRoutes : List Route :=
  [⟨"/me", [.get]⟩, ⟨"/{user}", [.get]⟩]

def authRoutes : List Route :=
  [⟨"/register", [.post]⟩, ⟨"/login", [.post]⟩, ⟨"/schools", [.get]⟩, ⟨"/school", [.post]⟩,
    ⟨"/logout", [.post]⟩, ⟨"/me", [.get]⟩]

def bankQuestionsRoutes : List Route :=
  [⟨"/", [.get, .post]⟩, ⟨"/{bid}", [.get, .patch, .delete]⟩,
    ⟨"/{bid}/image", [.get, .post, .delete]⟩,
    ⟨"/{bid}/choices/{choice_id}/image", [.get, .post, .delete]⟩]

def boardsRoutes : List Route :=
  [⟨"/", [.get, .post]⟩, ⟨"/{id}", [.get, .patch, .delete]⟩, ⟨"/{id}/strokes", [.get]⟩,
    ⟨"/{id}/history", [.get]⟩, ⟨"/{id}/epochs", [.get]⟩, ⟨"/{id}/clear", [.post]⟩,
    ⟨"/{id}/close", [.post]⟩, ⟨"/{id}/invite", [.post]⟩, ⟨"/{id}/ws", [.get]⟩]

def builderRoutes : List Route :=
  [⟨"/builder/login", [.post]⟩, ⟨"/builder/logout", [.post]⟩, ⟨"/builder/me", [.get]⟩,
    ⟨"/schools", [.get, .post]⟩, ⟨"/schools/{id}", [.get, .patch, .delete]⟩,
    ⟨"/schools/{id}/modules", [.get, .patch]⟩,
    ⟨"/schools/{id}/modules/{module}", [.post, .delete]⟩,
    ⟨"/schools/{id}/admin-password", [.post]⟩, ⟨"/schools/{id}/enter", [.post]⟩]

def chatbotRoutes : List Route :=
  [⟨"/threads", [.get, .post]⟩, ⟨"/threads/{id}", [.patch, .delete]⟩,
    ⟨"/threads/{id}/messages", [.get, .post]⟩, ⟨"/threads/{id}/messages/{mid}", [.get]⟩,
    ⟨"/threads/{id}/messages/{mid}/stream", [.get]⟩]

def classesRoutes : List Route :=
  [⟨"/", [.get, .post]⟩, ⟨"/me", [.get]⟩, ⟨"/user/{user}", [.get]⟩,
    ⟨"/{id}", [.get, .patch, .delete]⟩, ⟨"/{id}/members", [.get, .post]⟩,
    ⟨"/{id}/members/{user}", [.delete]⟩, ⟨"/{id}/instances", [.get, .post]⟩,
    ⟨"/{id}/instances/{instance}", [.delete]⟩, ⟨"/blueprints", [.get, .post]⟩,
    ⟨"/blueprints/{grade}", [.get, .patch, .delete]⟩, ⟨"/blueprints/{grade}/status", [.get]⟩,
    ⟨"/{id}/blueprint", [.post]⟩]

def courseNotesRoutes : List Route :=
  [⟨"/{id}/files", [.get, .post]⟩, ⟨"/{id}/files/{file_id}", [.get, .delete]⟩,
    ⟨"/", [.get, .post]⟩, ⟨"/{id}", [.get, .patch, .delete]⟩, ⟨"/{id}/rag", [.get]⟩,
    ⟨"/{id}/rag/reindex", [.post]⟩, ⟨"/{id}/rag/{output_id}", [.delete]⟩]

def coursesRoutes : List Route :=
  [⟨"/", [.get, .post]⟩, ⟨"/me", [.get]⟩, ⟨"/{id}", [.get, .patch, .delete]⟩,
    ⟨"/{id}/members", [.get, .post]⟩, ⟨"/{id}/members/{user}", [.delete]⟩]

def coursesSubjectRoutes : List Route :=
  [⟨"/{id}/subjects", [.get, .post]⟩]

def eventsRoutes : List Route :=
  [⟨"/", [.get, .post]⟩, ⟨"/{id}", [.get, .patch, .delete]⟩, ⟨"/{id}/attendance", [.get, .post]⟩,
    ⟨"/{id}/attendance/{user}", [.delete]⟩, ⟨"/{id}/roster", [.get]⟩,
    ⟨"/{id}/register", [.post]⟩, ⟨"/{id}/register/{user}", [.delete]⟩]

def examWeightsOfferingRoutes : List Route :=
  [⟨"/{id}/exam-weights", [.get, .patch]⟩, ⟨"/{id}/exam-weights/{kind}", [.delete]⟩]

def examWeightsInstanceRoutes : List Route :=
  [⟨"/{id}/exam-weights", [.get, .patch, .delete]⟩, ⟨"/{id}/exam-weights/{kind}", [.delete]⟩]

def holidaysRoutes : List Route :=
  [⟨"/", [.get, .post]⟩, ⟨"/{id}", [.get, .patch, .delete]⟩]

def homeworkRoutes : List Route :=
  [⟨"/{id}/submission/files", [.post]⟩, ⟨"/{id}/submission/files/{fid}", [.get, .delete]⟩,
    ⟨"/", [.get]⟩, ⟨"/{id}", [.get, .patch, .delete]⟩,
    ⟨"/{id}/submission", [.get, .post, .delete]⟩, ⟨"/{id}/submissions", [.get]⟩,
    ⟨"/{id}/results", [.post]⟩, ⟨"/{id}/results/{user}", [.delete]⟩, ⟨"/{id}/result", [.get]⟩,
    ⟨"/report/{user}", [.get]⟩]

def insightsRoutes : List Route :=
  [⟨"/refresh", [.post]⟩, ⟨"/me", [.get]⟩, ⟨"/students/{user}", [.get, .post]⟩,
    ⟨"/runs", [.get, .post]⟩, ⟨"/runs/{run_day}/report", [.get, .post]⟩, ⟨"/summaries", [.post]⟩,
    ⟨"/recommendations", [.post]⟩, ⟨"/segments", [.post]⟩, ⟨"/profiles", [.post]⟩,
    ⟨"/pending", [.get]⟩, ⟨"/sweep", [.post]⟩, ⟨"/purge", [.post]⟩]

def insightsSchoolDirectoryRoutes : List Route :=
  [⟨"/insights/schools", [.get]⟩]

def instancesRoutes : List Route :=
  [⟨"/me", [.get]⟩, ⟨"/{id}", [.get, .patch]⟩, ⟨"/{id}/reset", [.post]⟩,
    ⟨"/{id}/teachers", [.post]⟩, ⟨"/{id}/teachers/{user}", [.delete]⟩,
    ⟨"/{id}/enrollments", [.get, .post]⟩, ⟨"/{id}/enrollments/{user}", [.delete]⟩]

def instancesExamRoutes : List Route :=
  [⟨"/{id}/exams", [.get, .post]⟩]

def instancesSessionRoutes : List Route :=
  [⟨"/{id}/sessions", [.get, .post]⟩]

def instancesHomeworkRoutes : List Route :=
  [⟨"/{id}/homework", [.get, .post]⟩]

def limitsRoutes : List Route :=
  [⟨"/limits", [.get]⟩]

def marksRoutes : List Route :=
  [⟨"/me", [.get]⟩, ⟨"/{user}", [.get]⟩, ⟨"/karne", [.get]⟩, ⟨"/karne/{user}", [.get]⟩]

def mealsRoutes : List Route :=
  [⟨"/menus", [.get, .post]⟩, ⟨"/menus/{id}", [.get, .patch, .delete]⟩,
    ⟨"/menus/{id}/dishes", [.post]⟩, ⟨"/dishes/{did}", [.patch, .delete]⟩,
    ⟨"/menus/{id}/bookings", [.get, .post]⟩, ⟨"/bookings/me", [.get]⟩,
    ⟨"/bookings/{bid}", [.delete]⟩, ⟨"/menus/{id}/attendance", [.get, .post]⟩,
    ⟨"/attendance/{user}", [.get]⟩, ⟨"/profiles/me", [.get]⟩,
    ⟨"/profiles/{user}", [.get, .patch]⟩, ⟨"/balance/me", [.get]⟩, ⟨"/balance/{user}", [.get]⟩,
    ⟨"/ledger/{user}", [.get]⟩, ⟨"/credits", [.post]⟩]

def messagesRoutes : List Route :=
  [⟨"/", [.get, .post]⟩, ⟨"/{id}", [.patch, .delete]⟩]

def modulesRoutes : List Route :=
  [⟨"/modules/catalog", [.get]⟩, ⟨"/modules", [.get]⟩]

def notesRoutes : List Route :=
  [⟨"/{id}/files", [.get, .post]⟩, ⟨"/{id}/files/{file_id}", [.get, .delete]⟩,
    ⟨"/", [.get, .post]⟩, ⟨"/{id}", [.get, .patch, .delete]⟩]

def offeringSubjectsOfferingRoutes : List Route :=
  [⟨"/{id}/subjects", [.get, .post]⟩, ⟨"/{id}/subjects/{subject}", [.delete]⟩]

def offeringSubjectsInstanceRoutes : List Route :=
  [⟨"/{id}/subjects", [.get, .post, .delete]⟩, ⟨"/{id}/subjects/{subject}", [.delete]⟩]

def offeringsRoutes : List Route :=
  [⟨"/", [.get, .post]⟩, ⟨"/{id}", [.get, .patch, .delete]⟩]

def paymentsRoutes : List Route :=
  [⟨"/plans", [.get, .post]⟩, ⟨"/plans/{id}", [.get, .patch, .delete]⟩,
    ⟨"/plans/{id}/assignments", [.get, .post]⟩, ⟨"/credits", [.post]⟩, ⟨"/refunds", [.post]⟩,
    ⟨"/reversals", [.post]⟩, ⟨"/ledger/{user}", [.get]⟩, ⟨"/statement/me", [.get]⟩,
    ⟨"/statement/{user}", [.get]⟩, ⟨"/balance/me", [.get]⟩, ⟨"/balance/{user}", [.get]⟩]

def podcastRoutes : List Route :=
  [⟨"/jobs", [.get, .post]⟩, ⟨"/jobs/{id}", [.get]⟩, ⟨"/jobs/{id}/result", [.get]⟩,
    ⟨"/jobs/{id}/audio", [.get]⟩, ⟨"/jobs/{id}/cancel", [.post]⟩]

def pomodoroRoutes : List Route :=
  [⟨"/start", [.post]⟩, ⟨"/finish", [.post]⟩, ⟨"/me", [.get]⟩, ⟨"/{user}", [.get]⟩]

def questionsRoutes : List Route :=
  [⟨"/", [.get, .post]⟩, ⟨"/{id}", [.get, .delete]⟩, ⟨"/{id}/approve", [.post]⟩,
    ⟨"/{id}/solutions", [.get, .post]⟩, ⟨"/{id}/solutions/{sid}", [.patch, .delete]⟩,
    ⟨"/{id}/image", [.get, .post, .delete]⟩,
    ⟨"/{id}/solutions/{sid}/image", [.get, .post, .delete]⟩]

def ragRoutes : List Route :=
  [⟨"/threads", [.get, .post]⟩, ⟨"/threads/{id}", [.patch, .delete]⟩,
    ⟨"/threads/{id}/messages", [.get, .post]⟩, ⟨"/threads/{id}/messages/{mid}", [.get]⟩,
    ⟨"/threads/{id}/messages/{mid}/stream", [.get]⟩, ⟨"/summarize", [.post]⟩,
    ⟨"/questions", [.post]⟩]

def schoolRoutes : List Route :=
  [⟨"/school", [.get]⟩]

def sessionsRoutes : List Route :=
  [⟨"/{id}", [.get, .patch, .delete]⟩, ⟨"/{id}/attendance", [.get, .post]⟩,
    ⟨"/{id}/attendance/{user}", [.delete]⟩]

def settingsRoutes : List Route :=
  [⟨"/", [.get, .patch]⟩]

def subjectsRoutes : List Route :=
  [⟨"/{id}", [.get, .patch, .delete]⟩]

def termsRoutes : List Route :=
  [⟨"/", [.get, .post]⟩, ⟨"/{id}", [.get, .patch, .delete]⟩, ⟨"/{id}/archive", [.post]⟩,
    ⟨"/{id}/unarchive", [.post]⟩]

def usersRoutes : List Route :=
  [⟨"/", [.get, .post]⟩, ⟨"/me", [.patch]⟩, ⟨"/me/preferences", [.patch]⟩,
    ⟨"/me/students", [.get]⟩, ⟨"/me/profile", [.get]⟩, ⟨"/search", [.get]⟩, ⟨"/{id}", [.get]⟩,
    ⟨"/{id}/role", [.patch]⟩, ⟨"/{id}/profile", [.get, .patch]⟩, ⟨"/{id}/preferences", [.patch]⟩,
    ⟨"/{id}/students", [.get, .post]⟩, ⟨"/{id}/students/{student}", [.delete]⟩,
    ⟨"/me/avatar", [.get, .post, .delete]⟩, ⟨"/{id}/avatar", [.get, .delete]⟩]

def weeklyPlanOfferingRoutes : List Route :=
  [⟨"/{id}/weekly-plan", [.get, .post]⟩, ⟨"/{id}/weekly-plan/{slot}", [.delete]⟩]

def weeklyPlanInstanceRoutes : List Route :=
  [⟨"/{id}/weekly-plan", [.get, .post, .delete]⟩, ⟨"/{id}/weekly-plan/{slot}", [.delete]⟩,
    ⟨"/{id}/weekly-plan/materialize", [.post]⟩]

def workRoutes : List Route :=
  [⟨"/check-in", [.post]⟩, ⟨"/check-out", [.post]⟩, ⟨"/me", [.get]⟩, ⟨"/{user}", [.get]⟩,
    ⟨"/entries/{id}", [.patch, .delete]⟩]

def examsRoutes : List Route :=
  [⟨"/", [.get]⟩, ⟨"/{id}", [.get, .patch, .delete]⟩, ⟨"/{id}/audience", [.get, .post]⟩,
    ⟨"/{id}/audience/{instance}", [.delete]⟩, ⟨"/{id}/results", [.get, .post]⟩,
    ⟨"/{id}/result", [.get]⟩, ⟨"/{id}/results/{user}", [.delete]⟩, ⟨"/{id}/statistics", [.get]⟩,
    ⟨"/{id}/attempt", [.get, .post]⟩, ⟨"/{id}/attempt/finish", [.post]⟩, ⟨"/{id}/live", [.get]⟩,
    ⟨"/{id}/questions", [.get, .post]⟩, ⟨"/{id}/questions/{qid}", [.patch, .delete]⟩,
    ⟨"/{id}/questions/from-bank/{bid}", [.post]⟩, ⟨"/{id}/questions/{qid}/to-bank", [.post]⟩,
    ⟨"/{id}/questions/{qid}/refresh-from-bank", [.post]⟩, ⟨"/{id}/attempt/questions", [.get]⟩,
    ⟨"/{id}/attempt/answers", [.post]⟩, ⟨"/{id}/attempts/{user}/answers", [.get]⟩,
    ⟨"/{id}/students/{user}/attempts", [.get]⟩,
    ⟨"/{id}/students/{user}/attempts/{seq}/answers", [.get]⟩,
    ⟨"/{id}/students/{user}/marks", [.get]⟩, ⟨"/{id}/review/questions", [.get]⟩,
    ⟨"/{id}/review/attempts", [.get]⟩, ⟨"/{id}/review/attempts/{seq}/answers", [.get]⟩,
    ⟨"/{id}/questions/{qid}/image", [.get, .post, .delete]⟩,
    ⟨"/{id}/questions/{qid}/choices/{choice_id}/image", [.get, .post, .delete]⟩,
    ⟨"/{id}/attempt/answers/{qid}/image", [.get, .post, .delete]⟩,
    ⟨"/{id}/attempts/{user}/answers/{qid}/image", [.get]⟩,
    ⟨"/{id}/students/{user}/attempts/{seq}/answers/{qid}/image", [.get]⟩,
    ⟨"/{id}/review/attempts/{seq}/answers/{qid}/image", [.get]⟩, ⟨"/{id}/attempt/ws", [.get]⟩]

def coursesRouter : List Route := coursesRoutes ++ coursesSubjectRoutes

def offeringsRouter : List Route :=
  offeringsRoutes ++ offeringSubjectsOfferingRoutes ++ examWeightsOfferingRoutes ++
    weeklyPlanOfferingRoutes

def instancesRouter : List Route :=
  instancesRoutes ++ instancesExamRoutes ++ instancesSessionRoutes ++ instancesHomeworkRoutes ++
    offeringSubjectsInstanceRoutes ++ examWeightsInstanceRoutes ++ weeklyPlanInstanceRoutes

def rootRoutes : List Route :=
  [⟨"/", [.get]⟩, ⟨"/health", [.get]⟩, ⟨"/time", [.get]⟩] ++ limitsRoutes ++ modulesRoutes ++
    schoolRoutes ++ builderRoutes ++ insightsSchoolDirectoryRoutes

def nests : List (String × List Route) :=
  [("/ai", aiRoutes), ("/auth", authRoutes), ("/chatbot", chatbotRoutes), ("/rag", ragRoutes),
    ("/insights", insightsRoutes), ("/podcast", podcastRoutes), ("/users", usersRoutes),
    ("/notes", notesRoutes), ("/messages", messagesRoutes), ("/events", eventsRoutes),
    ("/appointments", appointmentsRoutes), ("/courses", coursesRouter),
    ("/instances", instancesRouter), ("/offerings", offeringsRouter),
    ("/academic-years", academicYearsRoutes), ("/course-notes", courseNotesRoutes),
    ("/classes", classesRoutes), ("/sessions", sessionsRoutes), ("/exams", examsRoutes),
    ("/marks", marksRoutes), ("/meals", mealsRoutes), ("/payments", paymentsRoutes),
    ("/work", workRoutes), ("/pomodoro", pomodoroRoutes), ("/questions", questionsRoutes),
    ("/bank-questions", bankQuestionsRoutes), ("/attendance", attendanceRoutes),
    ("/settings", settingsRoutes), ("/subjects", subjectsRoutes), ("/homework", homeworkRoutes),
    ("/terms", termsRoutes), ("/holidays", holidaysRoutes), ("/boards", boardsRoutes)]

def buildRouter : List Route :=
  rootRoutes ++ nests.flatMap fun (mount, routes) => nest mount routes

end Hezarfen.Web
