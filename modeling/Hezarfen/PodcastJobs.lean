import Hezarfen.Boards
import Mathlib.Algebra.Order.Ring.Rat

/-!
# Podcast jobs

One row per episode.  A report of the service is checked against a read of the row and then
written by a statement that matches only if the row still has the state that was read; the
backend's own cancel and failure match a live row, and the audio and the estimate any row.
Every write is one statement.
-/

namespace Hezarfen.Podcast

open Interleaving
open Boards (validateRequired)
open SchoolSettings (trim)

def maxCodeLen : ℕ := 64

def maxTranscriptLen : ℕ := 1000000

def maxCourseNoteFiles : ℕ := 10

def podcastAudioMaxBytes : ℕ := 256 * 1024 * 1024

def podcastJobRetentionSecs : ℤ := 7 * 24 * 60 * 60

structure PodcastJobId where
  uuid : Uuid
  deriving DecidableEq

def PodcastJobId.key (id : PodcastJobId) : String := id.uuid.hyphenated

inductive PodcastJobState where
  | queued
  | running
  | done
  | failed
  | cancelled
  deriving DecidableEq

namespace PodcastJobState

def asStr : PodcastJobState → String
  | queued => "queued"
  | running => "running"
  | done => "done"
  | failed => "failed"
  | cancelled => "cancelled"

def parse (value : String) : Option PodcastJobState :=
  if value = "queued" then some queued
  else if value = "running" then some running
  else if value = "done" then some done
  else if value = "failed" then some failed
  else if value = "cancelled" then some cancelled
  else none

def isTerminal : PodcastJobState → Bool
  | done | failed | cancelled => true
  | _ => false

def canTransitionTo (self target : PodcastJobState) : Bool :=
  if target = self then true
  else
    match self with
    | queued => target = running ∨ target = cancelled ∨ target = failed
    | running => target = done ∨ target = failed ∨ target = cancelled
    | done | failed | cancelled => false

end PodcastJobState

structure PodcastSourceStatus where
  key : String
  name : String
  status : String
  deriving DecidableEq

structure PodcastJob where
  userId : UserId
  sourceId : String
  format : Option String
  transcript : Option String
  sources : Option (List PodcastSourceStatus)
  state : PodcastJobState
  stage : String
  progress : ℚ
  errorCode : Option String
  audioKey : Option String
  audioName : Option String
  audioType : Option String
  audioBytes : Option ℕ
  durationSecs : Option ℚ
  etaSecs : Option ℤ
  createdAt : Timestamp
  updatedAt : Timestamp

structure Db where
  podcastJob : Table PodcastJobId PodcastJob
  /-- The accounts, for the foreign key. -/
  appUser : List UserId

def PodcastJob.isExpired (job : PodcastJob) (now : Timestamp) : Bool :=
  job.state.isTerminal && decide (now - job.updatedAt > podcastJobRetentionSecs * 1000)

inductive PodcastRefusal where
  | unknownJob
  | invalidPayload (why : String)
  | notPermitted (why : String)
  | audioMissing
  | expired
  | unavailable (why : String)

/-- A report as it was decoded.  A number that is not finite has no `progress`. -/
structure ReportInput where
  jobId : PodcastJobId
  sourceId : String
  format : Option String
  userId : String
  state : String
  stage : String
  progress : Option ℚ
  errorCode : Option String
  transcript : Option String
  sources : Option (List PodcastSourceStatus)

structure UploadRequest where
  jobId : PodcastJobId
  name : String
  contentType : String
  size : ℕ
  durationSecs : Option ℚ

inductive Request where
  | create (user : UserId) (sourceId : String) (format : Option String)
  | setEta (id : PodcastJobId) (etaSecs : ℤ)
  | report (input : ReportInput)
  | markCancelled (id : PodcastJobId)
  | markFailed (id : PodcastJobId) (errorCode : String)
  | ingest (request : UploadRequest)

structure Write where
  id : PodcastJobId
  source : PodcastJobState
  target : PodcastJobState
  stage : String
  progress : ℚ
  errorCode : Option String
  format : Option String
  transcript : Option String
  sources : Option (List PodcastSourceStatus)

inductive Point where
  | create (user : UserId) (sourceId : String) (format : Option String)
  | setEta (id : PodcastJobId) (etaSecs : ℤ)
  | readReported (input : ReportInput)
  | report (job : Write)
  | reread (id : PodcastJobId)
  | setCancelled (id : PodcastJobId)
  | setFailed (id : PodcastJobId) (errorCode : String)
  | readIngested (request : UploadRequest)
  | setAudio (request : UploadRequest) (key : String)

structure World where
  now : Timestamp
  uuid : Uuid

inductive Answer where
  | job (row : Option PodcastJob)
  | stored (key : String) (size : ℕ)
  | refused (refusal : PodcastRefusal)
  | failed (error : AppError)

abbrev Reply := Next Point Answer

def refuse (refusal : PodcastRefusal) : Reply := .answer (.refused refusal)

def Db.put (s : Db) (id : PodcastJobId) (row : PodcastJob) : Db :=
  { s with podcastJob := s.podcastJob.insert id row }

def create (s : Db) (w : World) (user : UserId) (sourceId : String) (format : Option String) :
    Db × Reply :=
  let id : PodcastJobId := ⟨w.uuid⟩
  if (s.podcastJob.lookup id).isSome ∨ user ∉ s.appUser then (s, .answer (.failed .db))
  else
    let row : PodcastJob :=
      { userId := user, sourceId := sourceId, format := format, transcript := none,
        sources := none, state := .queued, stage := "", progress := 0, errorCode := none,
        audioKey := none, audioName := none, audioType := none, audioBytes := none,
        durationSecs := none, etaSecs := none, createdAt := w.now, updatedAt := w.now }
    (s.put id row, .answer (.job (some row)))

/-- An `UPDATE` of one row, and its answer. -/
def Db.update (s : Db) (id : PodcastJobId) (p : PodcastJob → Bool)
    (f : PodcastJob → PodcastJob) : Option PodcastJob × Db :=
  match (s.podcastJob.lookup id).filter p with
  | none => (none, s)
  | some row => (some (f row), s.put id (f row))

/-- `format` and `transcript` keep a value they have; `sources` takes a new one. -/
def PodcastJob.reported (row : PodcastJob) (job : Write) (now : Timestamp) : PodcastJob :=
  { row with
    state := job.target
    stage := job.stage
    progress := job.progress
    errorCode := job.errorCode
    format := row.format.or job.format
    transcript := row.transcript.or job.transcript
    sources := job.sources.or row.sources
    updatedAt := now }

def PodcastJob.isLive (row : PodcastJob) : Bool := row.state = .queued ∨ row.state = .running

def PodcastJob.cancel (now : Timestamp) (row : PodcastJob) : PodcastJob :=
  { row with state := .cancelled, stage := "", updatedAt := now }

def PodcastJob.fail (errorCode : String) (now : Timestamp) (row : PodcastJob) : PodcastJob :=
  { row with state := .failed, errorCode := some errorCode, stage := "", updatedAt := now }

def PodcastJob.withAudio (request : UploadRequest) (key : String) (now : Timestamp)
    (row : PodcastJob) : PodcastJob :=
  { row with
    audioKey := some key
    audioName := some request.name
    audioType := some request.contentType
    audioBytes := some request.size
    durationSecs := request.durationSecs
    updatedAt := now }

/-- `podcast_job_done_has_audio` -/
def PodcastJob.doneHasAudio (row : PodcastJob) : Bool :=
  row.state ≠ .done ∨ row.audioKey.isSome

def longerThan (text : Option String) (max : ℕ) : Bool :=
  text.any fun text => max < text.toList.length

def checkShape (input : ReportInput) : Except PodcastRefusal (PodcastJobState × ℚ) :=
  match PodcastJobState.parse input.state with
  | none => .error (.invalidPayload ("`" ++ input.state ++ "` is not a known job state"))
  | some target =>
      match input.progress.filter fun p => 0 ≤ p ∧ p ≤ 1 with
      | none => .error (.invalidPayload "progress must be a fraction between 0 and 1")
      | some progress =>
          if maxCodeLen < input.stage.toList.length then
            .error (.invalidPayload "stage is longer than 64 characters")
          else if longerThan input.errorCode maxCodeLen then
            .error (.invalidPayload "error_code is longer than 64 characters")
          else if longerThan input.transcript maxTranscriptLen then
            .error (.invalidPayload
              ("transcript is longer than " ++ toString maxTranscriptLen ++ " characters"))
          else if input.sources.any fun sources => maxCourseNoteFiles < sources.length then
            .error (.invalidPayload ("sources carries more than the " ++
              toString maxCourseNoteFiles ++ " attachments a note can hold"))
          else .ok (target, progress)

/-- The sender's echo, the retention window, the transition, and the audio of a finished
episode, in that order. -/
def checkRow (input : ReportInput) (target : PodcastJobState) (now : Timestamp)
    (row : PodcastJob) : Except PodcastRefusal Unit :=
  if row.userId.key ≠ input.userId then
    .error (.notPermitted "the job belongs to another user")
  else if row.sourceId ≠ input.sourceId then
    .error (.notPermitted "the job's source does not match this report")
  else if row.format.any fun stored => input.format.any fun reported => stored ≠ reported then
    .error (.notPermitted "the job's format was already resolved and this report disagrees")
  else if row.isExpired now then .error .expired
  else if !row.state.canTransitionTo target then
    .error (.invalidPayload ("`" ++ row.state.asStr ++ "` cannot move to `" ++
      target.asStr ++ "`"))
  else if target = .done ∧ row.audioKey = none then .error .audioMissing
  else .ok ()

def readReported (s : Db) (w : World) (input : ReportInput) : Reply :=
  match checkShape input with
  | .error e => refuse e
  | .ok (target, progress) =>
      match s.podcastJob.lookup input.jobId with
      | none => refuse .unknownJob
      | some row =>
          match checkRow input target w.now row with
          | .error e => refuse e
          | .ok () =>
              -- A blank transcript is absent, not a value.
              let transcript := input.transcript.filter fun text => !(trim text).isEmpty
              .goto (.report
                { id := input.jobId, source := row.state, target := target, stage := input.stage,
                  progress := progress, errorCode := input.errorCode, format := input.format,
                  transcript := transcript, sources := input.sources })

def report (s : Db) (w : World) (job : Write) : Db × Reply :=
  match s.update job.id (fun row => row.state = job.source) fun row => row.reported job w.now with
  | (none, _) => (s, .goto (.reread job.id))
  | (some row, s') =>
      if row.doneHasAudio then (s', .answer (.job (some row)))
      else (s, refuse (.unavailable "database error"))

def reread (s : Db) (id : PodcastJobId) : Reply :=
  match s.podcastJob.lookup id with
  | none => refuse .unknownJob
  | some row =>
      refuse (.invalidPayload ("the job moved to `" ++ row.state.asStr ++
        "` while this report was in flight"))

/-! ## An upload -/

def validateAudio (request : UploadRequest) : Except PodcastRefusal Unit :=
  match validateRequired "name" request.name 200 with
  | .error (.tooLong field max got) =>
      .error (.invalidPayload (field ++ " must be at most " ++ toString max ++
        " characters (got " ++ toString got ++ ")"))
  | .error _ => .error (.invalidPayload "name must not be empty")
  | .ok () =>
      if !"audio/".toList.isPrefixOf request.contentType.toList then
        .error (.invalidPayload ("`" ++ request.contentType ++ "` is not an audio content type"))
      else if request.size = 0 then
        .error (.invalidPayload "an empty episode is not an episode")
      else if podcastAudioMaxBytes < request.size then
        .error (.invalidPayload ("the upload is larger than " ++
          toString podcastAudioMaxBytes ++ " bytes"))
      else .ok ()

/-- The part after the last dot. -/
def extensionOf (name : String) : Option (List Char) :=
  if '.' ∈ name.toList then some (name.toList.reverse.takeWhile fun c => c ≠ '.').reverse
  else none

def isShortExtension (extension : List Char) : Bool :=
  1 ≤ extension.length && extension.length ≤ 5 && extension.all Char.isAlphanum

def extensionOfType (contentType : String) : String :=
  if contentType = "audio/mpeg" then "mp3"
  else if contentType = "audio/mp4" then "m4a"
  else if contentType = "audio/aac" then "aac"
  else if contentType = "audio/wav" ∨ contentType = "audio/x-wav" then "wav"
  else if contentType = "audio/ogg" then "ogg"
  else if contentType = "audio/opus" then "opus"
  else "bin"

def audioKey (id : PodcastJobId) (name contentType : String) : String :=
  let extension :=
    match (extensionOf name).filter isShortExtension with
    | some extension => String.ofList (extension.map Char.toLower)
    | none => extensionOfType contentType
  "podcast/" ++ id.key ++ "." ++ extension

def readIngested (s : Db) (w : World) (request : UploadRequest) : Reply :=
  match validateAudio request with
  | .error e => refuse e
  | .ok () =>
      match s.podcastJob.lookup request.jobId with
      | none => refuse .unknownJob
      | some row =>
          if row.isExpired w.now then refuse .expired
          else
            .goto (.setAudio request (audioKey request.jobId request.name request.contentType))

/-- The bytes are on disk by now. -/
def setAudio (s : Db) (w : World) (request : UploadRequest) (key : String) : Db × Reply :=
  match s.update request.jobId (fun _ => true) (PodcastJob.withAudio request key w.now) with
  | (none, _) => (s, refuse .unknownJob)
  | (some _, s') => (s', .answer (.stored key request.size))

def answerUpdate (r : Option PodcastJob × Db) : Db × Reply := (r.2, .answer (.job r.1))

def next (_ : ℕ) (s : Db) (p : Point) (w : World) : Option (Db × Reply) :=
  match p with
  | .create user sourceId format => some (create s w user sourceId format)
  | .setEta id etaSecs =>
      some (answerUpdate (s.update id (fun _ => true) fun row =>
        { row with etaSecs := some (max etaSecs 0) }))
  | .readReported input => some (s, readReported s w input)
  | .report job => some (report s w job)
  | .reread id => some (s, reread s id)
  | .setCancelled id =>
      some (answerUpdate (s.update id PodcastJob.isLive (PodcastJob.cancel w.now)))
  | .setFailed id errorCode =>
      some (answerUpdate (s.update id PodcastJob.isLive (PodcastJob.fail errorCode w.now)))
  | .readIngested request => some (s, readIngested s w request)
  | .setAudio request key => some (setAudio s w request key)

def Request.entry : Request → Point
  | .create user sourceId format => .create user sourceId format
  | .setEta id etaSecs => .setEta id etaSecs
  | .report input => .readReported input
  | .markCancelled id => .setCancelled id
  | .markFailed id errorCode => .setFailed id errorCode
  | .ingest request => .readIngested request

def machine : Machine Db Point Request World Answer where
  entry := Request.entry
  next := next
  rollback := fun _ s => s

def start (users : List UserId) : Config Db Point := .initial ⟨∅, users⟩

/-- The stores before and after a move. -/
def stores (c : Config Db Point) (m : Move Request World) : List (Db × Db) :=
  (machine.step c m).toList.map fun d => (c.shared, d.shared)

def keepsSources (c : Config Db Point) : Point → Bool
  | .report job =>
      (c.shared.podcastJob.lookup job.id).all fun row =>
        row.state = job.source → job.sources = none ∨ row.sources = none ∨
          row.sources = job.sources
  | _ => true

end Hezarfen.Podcast
