import Hezarfen.Interleaving
import Hezarfen.MealDomain
import Hezarfen.MealStore
import Hezarfen.MealCalls
import Hezarfen.MealSeatCounter
import Hezarfen.MealLedgerBalance
import Hezarfen.MealPriceClaim
import Hezarfen.PaymentLedgerCaps
import Hezarfen.ExamFreeze
import Hezarfen.ExamKindCounter
import Hezarfen.ExamSittings
import Hezarfen.ExamPresence
import Hezarfen.AppointmentSeats
import Hezarfen.AppointmentWindows
import Hezarfen.AdminFloor
import Hezarfen.RoleSweep
import Hezarfen.InstanceGate
import Hezarfen.ExamCalendar
import Hezarfen.HomeworkAudience
import Hezarfen.MarkCounters
import Hezarfen.CourseTiers
import Hezarfen.PaymentReplay
import Hezarfen.PaymentStatement
import Hezarfen.FeePlans
import Hezarfen.FeePlanBilling
import Hezarfen.FeePlanCompletion
import Hezarfen.SettingsDomain
import Hezarfen.SettingsMerge
import Hezarfen.SettingsStore
import Hezarfen.SettingsCalls
import Hezarfen.SettingsSteps
import Hezarfen.SettingsNames
import Hezarfen.SettingsSerial
import Hezarfen.SettingsReplay
import Hezarfen.AiFrames
import Hezarfen.RateLimit
import Hezarfen.RateLimitBounds
import Hezarfen.RateLimitCharges
import Hezarfen.ReadCommitted
import Hezarfen.Transactions
import Hezarfen.RollCall
import Hezarfen.RollCallCounters
import Hezarfen.FieldUpdate
import Hezarfen.FieldUpdateCounters
import Hezarfen.Streaks
import Hezarfen.Pomodoro
import Hezarfen.PomodoroStreak
import Hezarfen.PomodoroCounters
import Hezarfen.PomodoroLog
import Hezarfen.Overlays
import Hezarfen.OverrideStore
import Hezarfen.OverrideReplay
import Hezarfen.Snapshots
import Hezarfen.RefCounts
import Hezarfen.ExamRefs
import Hezarfen.ExamRefCounters
import Hezarfen.ExamRefSteps
import Hezarfen.ExamRefRuns
import Hezarfen.HomeworkCounters
import Hezarfen.Badges
import Hezarfen.BadgeAwards
import Hezarfen.Boards
import Hezarfen.BoardLog
import Hezarfen.BoardRoster
import Hezarfen.BoardRosterRuns
import Hezarfen.Entitlements
import Hezarfen.EntitlementRuns
import Hezarfen.Provisioning
import Hezarfen.ProvisioningRuns
import Hezarfen.PodcastJobs
import Hezarfen.PodcastLifecycle
import Hezarfen.AiRegistry
import Hezarfen.AiRegistrySteps
import Hezarfen.AiRegistryPicks
import Hezarfen.AiRegistryRuns
import Hezarfen.Signups
import Hezarfen.SignupSteps
import Hezarfen.SignupCalls
import Hezarfen.SignupRuns
import Hezarfen.Enrollments
import Hezarfen.EnrollmentSteps
import Hezarfen.EnrollmentRuns
import Hezarfen.Messages
import Hezarfen.MessageRuns
import Hezarfen.PathTemplates
import Hezarfen.ApiRoutes
import Hezarfen.AiApi
import Hezarfen.Accounts
import Hezarfen.AccountSteps
import Hezarfen.AccountRuns
import Hezarfen.ExamDeadlines
import Hezarfen.Patches
import Hezarfen.OfferingPatches
import Hezarfen.QuestionSpecs
import Hezarfen.WeeklyPlans
import Hezarfen.WeeklyPlanRuns
import Hezarfen.CourseSessions
import Hezarfen.CourseSessionPlans
import Hezarfen.Histories
import Hezarfen.BankQuestions
import Hezarfen.BankQuestionRuns
import Hezarfen.ClassPump
import Hezarfen.ClassPumpRuns
import Hezarfen.Pictures
import Hezarfen.PictureRuns
import Hezarfen.BlueprintEdits
import Hezarfen.BlueprintRuns
import Hezarfen.Workflows
import Hezarfen.Rollovers
import Hezarfen.RolloverSteps
import Hezarfen.RolloverRuns
import Hezarfen.Ranks
import Hezarfen.RateLimitEvictions
import Hezarfen.WeeklyPublishes
import Hezarfen.WindowedLists
import Hezarfen.Absences
import Hezarfen.PrefixCodes
import Hezarfen.LedgerIds
import Hezarfen.KeyedRows
import Hezarfen.ExamWeights
import Hezarfen.Marks
import Hezarfen.MarkAverages
import Hezarfen.EventAudiences
import Hezarfen.MealBookingKeys
import Hezarfen.PodcastStaleness
import Hezarfen.TurkishFold
import Hezarfen.MessageFolders
