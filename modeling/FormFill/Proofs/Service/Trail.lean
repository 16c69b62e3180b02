import FormFill.Proofs.Fill.Faults
import FormFill.Service.Handler

/-!
# The trail of a request

A request for the form of a template or for a fill, whose own form has no problems, is a job. It leaves a
trail of events: one that says that work is begun, once all inputs have been read, and last one that says
that the job is done or has failed. The last event tells the status and the code of the response, and all
events and the response carry the identifier of the request.
-/

namespace FormFill.Service

open Json (Value)

/-- What is asked for by a request whose form has no problems. -/
inductive Job where
  | extract (form : StructureForm)
  | fill (form : FillForm)
  deriving DecidableEq, Repr

namespace Job

/-- The job of a request, if it has one. -/
def ofRequest? (sent : Request) : Option Job :=
  if sent.method.map Char.toUpper = "POST".toList ∧ sent.excess? = none then
    match Route.ofTarget? sent.target with
    | some .form => (StructureForm.read sent).toOption.map extract
    | some .fill => (FillForm.read sent).toOption.map fill
    | _ => none
  else none

/-- What keeps a job from being done, if anything does. -/
def failure? (settings : Settings) : Job → Option Failure
  | extract form =>
    match StructureJob.read settings form with
    | .error setback => some setback.failure
    | .ok _ => none
  | fill form =>
    match FillJob.read settings form with
    | .error setback => some setback.failure
    | .ok job =>
      match job.run settings.release with
      | .error failure => some failure
      | .ok _ => none

/-- Does a job. -/
def handle (settings : Settings) (request : Text) : Job → Handled
  | extract form => Service.extract settings request form
  | fill form => Service.fill settings request form

end Job

/-- An event says that work is begun. -/
def Begins (event : Event) : Prop := event.payload.get? "event" = some (.string "start")

/-- An event says that a request has failed, as the response does. -/
structure Reports (response : Response) (event : Event) : Prop where
  name : event.payload.get? "event" = some (.string "error")
  status : event.payload.get? "status_code" = some (.integer response.status)
  status_ne : response.status ≠ 200
  code : ∃ code, event.payload.get? "error_code" = some (.string code) ∧
    response.body.get? "error_code" = some (.string code)
  request : (response.body.get? "detail").bind (·.get? "request_id") =
    some (.string response.request)

/-- An event says that a request has succeeded. -/
def Ends (event : Event) : Prop := event.payload.get? "event" = some (.string "done")

/-- Events of a request that go with the response: at most one that says that work is begun, and then one
that says how it has ended. -/
inductive Trail (response : Response) : List Event → Prop where
  | refused {last : Event} (hlast : Reports response last) : Trail response [last]
  | failed {first last : Event} (hfirst : Begins first) (hlast : Reports response last) :
    Trail response [first, last]
  | done {first last : Event} (hfirst : Begins first)
    (hlast : Ends last) (hstatus : response.status = 200) :
    Trail response [first, last]

variable {settings : Settings} {request : Text}

/-- An event that says that a request has failed does not say that it has succeeded. -/
theorem Reports.not_ends {response : Response} {event : Event} (h : Reports response event) :
    ¬Ends event := by
  intro hends
  rw [Ends, h.name] at hends
  exact absurd (Value.string.inj (Option.some.inj hends)) (by decide)

/-- The last event of a trail says that the request has succeeded if and only if the response does. -/
theorem Trail.ends_iff {response : Response} {events : List Event} (h : Trail response events) :
    (∃ last, events.getLast? = some last ∧ Ends last) ↔ response.status = 200 := by
  cases h with
  | refused hlast => simp [hlast.not_ends, hlast.status_ne]
  | failed _ hlast => simp [hlast.not_ends, hlast.status_ne]
  | done _ hlast hstatus => simp [hlast, hstatus]

theorem Failure.status_ne (failure : Failure) : failure.status ≠ 200 := by
  cases failure with
  | refused refusal => cases refusal <;> simp [status, Refusal.status]
  | unexpected fault => simp [status]

/-- The details of a failure hold no identifier of their own. -/
theorem Failure.get?_detail (path : Text) (failure : Failure) :
    Table.get? "request_id" (failure.detail path) = none := by
  cases failure with
  | refused refusal => cases refusal <;> rfl
  | unexpected fault => rfl

/-- The event that tells of a failure tells what the response does. -/
theorem reports_failed (request path : Text) (setback : Setback) :
    Reports (failureResponse request path setback.failure) ⟨request, .failed setback⟩ where
  name := rfl
  status := rfl
  status_ne := setback.failure.status_ne
  code := ⟨setback.failure.code, rfl, rfl⟩
  request := by
    have hdetail : (failureResponse request path setback.failure).body.get? "detail" =
        some (.object (setback.failure.detail path ++ [textMember "request_id" request])) := rfl
    rw [hdetail, Option.bind_some, Value.get?, Table.get?_append, Failure.get?_detail,
      Option.none_or]
    rfl

/-- A job leaves a trail. If something keeps it from being done, the response tells what, and otherwise it has
the status of a success. -/
structure Leaves (request : Text) (failure? : Option Failure) (handled : Handled) : Prop where
  trail : Trail handled.response handled.events
  request_eq : handled.response.request = request
  requests : ∀ event ∈ handled.events, event.payload.get? "request_id" = some (.string request)
  failed : ∀ failure, failure? = some failure → handled.response.status = failure.status ∧
    handled.response.body.get? "error_code" = some (.string failure.code)
  succeeded : failure? = none → handled.response.status = 200

theorem leaves_failWith (path : Text) {before : List Notice} (setback : Setback)
    (hbefore : before = [] ∨ ∃ notice, before = [notice] ∧ Begins ⟨request, notice⟩) :
    Leaves request (some setback.failure) (failWith request path before setback) where
  trail := by
    have hreports := reports_failed request path setback
    rcases hbefore with rfl | ⟨notice, rfl, hbegins⟩
    · exact .refused hreports
    · exact .failed hbegins hreports
  request_eq := rfl
  requests := by
    intro event hmem
    obtain ⟨notice, -, rfl⟩ := List.mem_map.mp hmem
    rfl
  failed := by
    rintro failure ⟨⟩
    exact ⟨rfl, rfl⟩
  succeeded := nofun

theorem leaves_succeedWith (body : Value) {first last : Notice} (hfirst : Begins ⟨request, first⟩)
    (hlast : last.name = "done".toList) :
    Leaves request none (succeedWith request body [first, last]) where
  trail := by
    refine .done hfirst ?_ rfl
    change some (Value.string last.name) = _
    rw [hlast]
  request_eq := rfl
  requests := by
    intro event hmem
    obtain ⟨notice, -, rfl⟩ := List.mem_map.mp hmem
    rfl
  failed := nofun
  succeeded := fun _ => rfl

/-- A failure that is met at a stage is the failure of the setback. -/
theorem Failure.failure_setback (stage : Stage) (failure : Failure) :
    (failure.setback stage).failure = failure := by
  cases failure <;> rfl

theorem Job.leaves (settings : Settings) (request : Text) (job : Job) :
    Leaves request (job.failure? settings) (job.handle settings request) := by
  cases job with
  | extract form =>
      simp only [failure?, handle, Service.extract]
      cases StructureJob.read settings form with
      | error setback => exact leaves_failWith _ setback (Or.inl rfl)
      | ok job => exact leaves_succeedWith _ rfl rfl
  | fill form =>
      simp only [failure?, handle, Service.fill]
      cases FillJob.read settings form with
      | error setback => exact leaves_failWith _ setback (Or.inl rfl)
      | ok job =>
          dsimp only
          cases hrun : job.run settings.release with
          | ok filled => exact leaves_succeedWith _ rfl rfl
          | error failure =>
              have hleaves : Leaves request (some (failure.setback .filling).failure)
                  (failWith request Route.fill.path [job.begun] (failure.setback .filling)) :=
                leaves_failWith _ _ (Or.inr ⟨job.begun, rfl, rfl⟩)
              rw [Failure.failure_setback] at hleaves
              exact hleaves

/-- A form within its limits and without problems is handled. -/
theorem handleForm_eq {α : Type} (request : Text) {sent : Request}
    {read : Request → Except (List Schema.Problem) α} {form : α} (hexcess : sent.excess? = none)
    (hread : (read sent).toOption = some form) (handle : α → Handled) :
    handleForm request sent read handle = handle form := by
  cases hresult : read sent with
  | error problems => simp [hresult, Except.toOption] at hread
  | ok result =>
      obtain rfl : result = form := by simpa [hresult, Except.toOption] using hread
      simp [handleForm, hexcess, hresult]

/-- A request that has a job is handled by doing the job. -/
theorem handle_of_ofRequest? (settings : Settings) (request : Text) {sent : Request} {job : Job}
    (h : Job.ofRequest? sent = some job) :
    handle settings request sent = job.handle settings request := by
  unfold Job.ofRequest? at h
  split at h
  next hsent =>
    obtain ⟨hmethod, hexcess⟩ := hsent
    -- Only the head of an answer is sent without its body.
    have hhead : ¬"POST".toList = "HEAD".toList := by decide
    split at h
    next hroute =>
      obtain ⟨form, hform, rfl⟩ := Option.map_eq_some_iff.mp h
      simp only [handle, hmethod, hroute, if_neg hhead]
      exact handleForm_eq request hexcess hform _
    next hroute =>
      obtain ⟨form, hform, rfl⟩ := Option.map_eq_some_iff.mp h
      simp only [handle, hmethod, hroute, if_neg hhead]
      exact handleForm_eq request hexcess hform _
    next => cases h
  next => cases h

/-- Whatever comes with a request that has a job, the request leaves a trail. Its last event says that the
request has succeeded if and only if the response does, and a fault that is not foreseen is told as one of
the service itself. -/
theorem handle_leaves (settings : Settings) (request : Text) {sent : Request} {job : Job}
    (h : Job.ofRequest? sent = some job) :
    let handled := handle settings request sent
    Leaves request (job.failure? settings) handled ∧
      ((∃ last, handled.events.getLast? = some last ∧ Ends last) ↔ handled.response.status = 200) ∧
      ∀ fault, job.failure? settings = some (.unexpected fault) → handled.response.status = 500 ∧
        handled.response.body.get? "error_code" = some (.string "INTERNAL_ERROR") := by
  have hleaves := job.leaves settings request
  rw [← handle_of_ofRequest? settings request h] at hleaves
  exact ⟨hleaves, hleaves.trail.ends_iff, fun fault hfault => hleaves.failed _ hfault⟩

namespace CountedFill

open FormFill.CountedFill (template)

/-- A request to fill the template with one value. -/
def sent : Request where
  method := "POST"
  target := "/v1/fill"
  parts := [("template".toList, .file (Utf8.encode template)), ("dictionary".toList, .file []),
    ("values".toList, .text "\x7b\"C\": \"a\"\x7d")]

/-- What is asked for by the request. -/
def job : Job := .fill
  ⟨Utf8.encode template, [], some "\x7b\"C\": \"a\"\x7d", none, none⟩

end CountedFill

/-- A request for a fill that comes to a fault fails after it is begun. -/
theorem handle_leaves_of_counted :
    Leaves "7" (CountedFill.job.failure? {}) (handle {} "7" CountedFill.sent) ∧
      (handle {} "7" CountedFill.sent).events.map (·.notice.name) =
        ["start".toList, "error".toList] ∧
      (handle {} "7" CountedFill.sent).response.status = 500 := by
  have hjob : Job.ofRequest? CountedFill.sent = some CountedFill.job := by decide +kernel
  have hfacts : (handle {} "7" CountedFill.sent).events.map (·.notice.name) =
        ["start".toList, "error".toList] ∧
      (handle {} "7" CountedFill.sent).response.status = 500 := by
    decide +kernel
  exact ⟨(handle_leaves {} "7" hjob).1, hfacts⟩

end FormFill.Service
