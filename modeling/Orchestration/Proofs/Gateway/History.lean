import Orchestration.Proofs.Gateway.Assignment

namespace Orchestration.Gateway

inductive Priming where
  | version (version : String)
  | environment (name : String) (code : Int)
  | resource (name fullName : String)
  | datasource (name : String) (info : DatasourceInfo)
  | workflow (project name : String) (code : Int)
  | failure (method : Method) (message : String)

namespace Priming

def apply (server : Server) : Priming → Server
  | version value => server.withVersion value
  | environment name code => server.withEnvironment name code
  | resource name fullName => server.withResource name fullName
  | datasource name info => server.withDatasource name info
  | workflow project name code => server.withWorkflow project name code
  | failure method message => server.withFailure method message

def subject? : Priming → Option Subject
  | workflow project name _ => some (.workflow ⟨project, name⟩)
  | _ => none

end Priming

/-- Servers that come out of a new one by calls and primings. -/
inductive History : Server → Type 1 where
  | start : History {}
  | call (history : History server) (request : Request α) :
      History (server.answer request).2
  | prime (history : History server) (priming : Priming) :
      History (priming.apply server)

namespace History

def Answered (kind : ∀ {α : Type}, Request α → α → Prop) :
    History server → Prop
  | start => False
  | @call before _ history request =>
      (∃ value, (before.answer request).1 = .ok value ∧ kind request value) ∨
        history.Answered kind
  | prime history _ => history.Answered kind

def Identified (history : History server) (key : TaskKey)
    (identity : TaskIdentity) : Prop :=
  history.Answered fun request value =>
    request.identified? value = some (key, identity)

def Assigned (history : History server) (subject : Subject) (code : Int) :
    Prop :=
  history.Answered fun request value =>
    request.assigned? value = some (subject, code)

def Primed (subject : Subject) : History server → Prop
  | start => False
  | call history _ => history.Primed subject
  | prime history priming =>
      priming.subject? = some subject ∨ history.Primed subject

/-- A call was answered with the code of the subject before that was primed, if
it ever was: the server took the code from its counter. -/
def Issued (subject : Subject) (code : Int) : History server → Prop
  | start => False
  | @call before _ history request =>
      (before.Assigns request subject code ∧ ¬ history.Primed subject) ∨
        history.Issued subject code
  | prime history _ => history.Issued subject code

end History

namespace Server

variable {server : Server} {subject : Subject}

theorem nextCode_apply (server : Server) (priming : Priming) :
    (priming.apply server).nextCode = server.nextCode := by
  cases priming <;> rfl

theorem identities_apply (server : Server) (priming : Priming) :
    (priming.apply server).identities = server.identities := by
  cases priming <;> rfl

theorem code?_apply_self {priming : Priming}
    (primed : priming.subject? = some subject) :
    ∃ code, (priming.apply server).code? subject = some code := by
  cases priming with
  | workflow project name code =>
      cases primed
      refine ⟨code, ?_⟩
      rw [Priming.apply, withWorkflow, code?, List.lookup_cons_self]
      rfl
  | _ => cases primed

theorem code?_apply_other {priming : Priming}
    (unprimed : priming.subject? ≠ some subject) :
    (priming.apply server).code? subject = server.code? subject := by
  cases priming with
  | workflow project name code =>
      cases subject with
      | task key => rfl
      | workflow key =>
          have other : key ≠ ⟨project, name⟩ := by
            rintro rfl
            exact unprimed rfl
          rw [Priming.apply, withWorkflow, code?, lookup_cons_map, if_neg other,
            code?]
  | _ => cases subject <;> rfl

theorem Grows.apply (server : Server) (priming : Priming) :
    Grows server (priming.apply server) := by
  refine .of_same (server.nextCode_apply priming) fun key => ?_
  rw [code?, server.identities_apply priming, code?]

inductive Advance (server : Server) : Server → Prop where
  | call {α : Type} (request : Request α) :
      Advance server (server.answer request).2
  | prime (priming : Priming) : Advance server (priming.apply server)

theorem Grows.advance {before after : Server}
    (advance : Advance before after) : Grows before after := by
  cases advance with
  | call request => exact .answer before request
  | prime priming => exact .apply before priming

end Server

theorem History.faithful (history : History server) : server.Faithful := by
  induction history with
  | start => exact Server.faithful_new
  | call history request induction =>
      exact (Server.Grows.answer _ request).faithful induction
  | prime history priming induction =>
      exact (Server.Grows.apply _ priming).faithful induction

/-- The codes that were issued are those below the counter, each for a subject
of its own. The server holds them unless their subjects were primed. -/
structure Server.Issues (server : Server) (issued : Subject → Int → Prop)
    (primed : Subject → Prop) : Prop where
  first : firstCode ≤ server.nextCode
  given : ∀ subject, primed subject → ∃ code, server.code? subject = some code
  held : ∀ subject code, ¬ primed subject →
    (server.code? subject = some code ↔ issued subject code)
  range : ∀ code, (∃ subject, issued subject code) ↔
    firstCode ≤ code ∧ code < server.nextCode
  sameCode : ∀ subject code other, issued subject code →
    issued subject other → code = other
  sameSubject : ∀ subject other code, issued subject code →
    issued other code → subject = other

namespace Server.Issues

variable {server : Server} {issued : Subject → Int → Prop}
  {primed : Subject → Prop}

theorem start : Issues {} (fun _ _ => False) fun _ => False where
  first := Int.le_refl firstCode
  given _ := False.elim
  held subject code _ := by cases subject <;> simp [code?]
  range code := by
    simp only [exists_false, false_iff]
    omega
  sameCode _ _ _ := False.elim
  sameSubject _ _ _ := False.elim

theorem congr (issues : Issues server issued primed)
    {other : Subject → Int → Prop}
    (same : ∀ subject code, other subject code ↔ issued subject code) :
    Issues server other primed := by
  have same : other = issued :=
    funext fun subject => funext fun code => propext (same subject code)
  rwa [same]

theorem prime (issues : Issues server issued primed) (priming : Priming) :
    Issues (priming.apply server) issued fun subject =>
      priming.subject? = some subject ∨ primed subject where
  first := by
    rw [nextCode_apply]
    exact issues.first
  given subject either := by
    by_cases self : priming.subject? = some subject
    · exact code?_apply_self self
    · rw [code?_apply_other self]
      exact issues.given subject (either.resolve_left self)
  held subject code unprimed := by
    obtain ⟨other, unprimed⟩ := not_or.mp unprimed
    rw [code?_apply_other other]
    exact issues.held subject code unprimed
  range code := by
    rw [nextCode_apply]
    exact issues.range code
  sameCode := issues.sameCode
  sameSubject := issues.sameSubject

theorem unissued_of_free (issues : Issues server issued primed)
    {subject : Subject} (free : server.code? subject = none) :
    ¬ primed subject ∧ ∀ code, ¬ issued subject code := by
  have unprimed : ¬ primed subject := by
    intro wasPrimed
    obtain ⟨code, held⟩ := issues.given subject wasPrimed
    rw [free] at held
    cases held
  refine ⟨unprimed, fun code wasIssued => ?_⟩
  have held := (issues.held subject code unprimed).mpr wasIssued
  rw [free] at held
  cases held

theorem recalled {request : Request α} {reply : Reply α}
    (issues : Issues server issued primed)
    (recalls : Recalls server request reply) :
    Issues reply.2 issued primed where
  first := by
    rw [recalls.nextCode]
    exact issues.first
  given subject wasPrimed := by
    rw [recalls.code?]
    exact issues.given subject wasPrimed
  held subject code unprimed := by
    rw [recalls.code?]
    exact issues.held subject code unprimed
  range code := by
    rw [recalls.nextCode]
    exact issues.range code
  sameCode := issues.sameCode
  sameSubject := issues.sameSubject

theorem allocated {request : Request α} {reply : Reply α} {subject : Subject}
    (issues : Issues server issued primed)
    (allocates : Allocates server request reply subject) :
    Issues reply.2 (fun other code =>
      (other = subject ∧ code = server.nextCode) ∨ issued other code)
      primed := by
  obtain ⟨-, unissued⟩ := issues.unissued_of_free allocates.free
  have below : ∀ other code, issued other code → code < server.nextCode :=
    fun other code wasIssued => ((issues.range code).mp ⟨other, wasIssued⟩).2
  refine ⟨?_, ?_, ?_, ?_, ?_, ?_⟩
  · rw [allocates.nextCode]
    have first := issues.first
    omega
  · intro other wasPrimed
    rw [allocates.code?]
    split
    · exact ⟨_, rfl⟩
    · exact issues.given other wasPrimed
  · intro other code unprimed
    rw [allocates.code?]
    by_cases same : other = subject
    · subst same
      simp [unissued, eq_comm]
    · simp [same, issues.held other code unprimed]
  · intro code
    have before := issues.range code
    have first := issues.first
    rw [allocates.nextCode]
    constructor
    · intro wasIssued
      rcases wasIssued with ⟨other, ⟨-, rfl⟩ | wasIssued⟩
      · omega
      · have range := before.mp ⟨other, wasIssued⟩
        omega
    · intro range
      by_cases new : code = server.nextCode
      · exact ⟨subject, .inl ⟨rfl, new⟩⟩
      · obtain ⟨other, wasIssued⟩ := before.mpr (by omega)
        exact ⟨other, .inr wasIssued⟩
  · intro other code another one two
    rcases one with ⟨rfl, rfl⟩ | one
    · rcases two with ⟨-, rfl⟩ | two
      · rfl
      · exact absurd two (unissued another)
    · rcases two with ⟨rfl, rfl⟩ | two
      · exact absurd one (unissued code)
      · exact issues.sameCode other code another one two
  · intro other another code one two
    rcases one with ⟨rfl, rfl⟩ | one
    · rcases two with ⟨rfl, -⟩ | two
      · rfl
      · exact absurd (below another _ two) (Int.lt_irrefl _)
    · rcases two with ⟨rfl, rfl⟩ | two
      · exact absurd (below other _ one) (Int.lt_irrefl _)
      · exact issues.sameSubject other another code one two

theorem call (issues : Issues server issued primed) (request : Request α) :
    Issues (server.answer request).2 (fun subject code =>
      (server.Assigns request subject code ∧ ¬ primed subject) ∨
        issued subject code) primed := by
  rcases answer_cases server request with recalls | ⟨subject, allocates⟩
  · apply (issues.recalled recalls).congr
    intro subject code
    refine ⟨fun either => ?_, .inr⟩
    rcases either with ⟨⟨value, replied, assigned⟩, unprimed⟩ | wasIssued
    · have held := recalls.assigned value subject code replied assigned
      exact (issues.held subject code unprimed).mp held
    · exact wasIssued
  · apply (issues.allocated allocates).congr
    intro other code
    refine or_congr_left ?_
    obtain ⟨unprimed, -⟩ := issues.unissued_of_free allocates.free
    obtain ⟨value, replied, assigned⟩ := allocates.assigned
    constructor
    · intro taken
      obtain ⟨⟨_, same, otherAssigned⟩, -⟩ := taken
      rw [replied] at same
      cases same
      rw [assigned] at otherAssigned
      cases otherAssigned
      exact ⟨rfl, rfl⟩
    · intro new
      obtain ⟨rfl, rfl⟩ := new
      exact ⟨⟨value, replied, assigned⟩, unprimed⟩

end Server.Issues

namespace History

theorem issues (history : History server) :
    server.Issues (fun subject code => history.Issued subject code)
      fun subject => history.Primed subject := by
  induction history with
  | start => exact .start
  | call history request induction => exact induction.call request
  | prime history priming induction => exact induction.prime priming

theorem issued_of_assigned {history : History server} {subject : Subject}
    {code : Int} (unprimed : ¬ history.Primed subject)
    (assigned : history.Assigned subject code) :
    history.Issued subject code := by
  induction history with
  | start => cases assigned
  | call history request induction =>
      rcases assigned with now | before
      · exact .inl ⟨now, unprimed⟩
      · exact .inr (induction unprimed before)
  | prime history priming induction =>
      exact induction (not_or.mp unprimed).2 assigned

theorem unprimed_task (history : History server) (key : TaskKey) :
    ¬ history.Primed (.task key) := by
  induction history with
  | start => exact id
  | call history request induction => exact induction
  | prime history priming induction =>
      refine not_or.mpr ⟨?_, induction⟩
      cases priming <;> exact nofun

theorem assigned_of_identified {history : History server} {key : TaskKey}
    {identity : TaskIdentity} (identified : history.Identified key identity) :
    history.Assigned (.task key) identity.code := by
  induction history with
  | start => cases identified
  | call history request induction =>
      rcases identified with ⟨value, replied, identified⟩ | before
      · refine .inl ⟨value, replied, ?_⟩
        cases request with
        | taskIdentity project workflow task =>
            cases identified
            rfl
        | _ => cases identified
      · exact .inr (induction before)
  | prime history priming induction => exact induction identified

theorem version_of_held (history : History server) {key : TaskKey}
    {identity : TaskIdentity}
    (held : server.identities.lookup key = some identity) :
    identity.version = 0 := by
  induction history with
  | start => cases held
  | @call before _ history request induction =>
      rcases before.identities_answer request with same | ⟨new, -, added⟩
      · rw [same] at held
        exact induction held
      · rw [added, List.lookup_cons] at held
        by_cases same : key = new
        · rw [same, beq_self_eq_true] at held
          cases held
          rfl
        · rw [beq_false_of_ne same] at held
          exact induction held
  | @prime before history priming induction =>
      rw [before.identities_apply priming] at held
      exact induction held

theorem version_of_identified {history : History server} {key : TaskKey}
    {identity : TaskIdentity} (identified : history.Identified key identity) :
    identity.version = 0 := by
  induction history with
  | start => cases identified
  | call history request induction =>
      rcases identified with ⟨value, replied, identified⟩ | before
      · exact (history.call request).version_of_held
          (Server.lookup_of_identified replied identified)
      · exact induction before
  | prime history priming induction => exact induction identified

theorem assigned_code_iff (history : History server)
    {subject other : Subject} {code otherCode : Int}
    (unprimed : ¬ history.Primed subject)
    (otherUnprimed : ¬ history.Primed other)
    (assigned : history.Assigned subject code)
    (otherAssigned : history.Assigned other otherCode) :
    code = otherCode ↔ subject = other := by
  have issued := issued_of_assigned unprimed assigned
  have otherIssued := issued_of_assigned otherUnprimed otherAssigned
  constructor
  · rintro rfl
    exact history.issues.sameSubject subject other code issued otherIssued
  · rintro rfl
    exact history.issues.sameCode subject code otherCode issued otherIssued

theorem identified_iff (history : History server) {key other : TaskKey}
    {identity otherIdentity : TaskIdentity}
    (identified : history.Identified key identity)
    (otherIdentified : history.Identified other otherIdentity) :
    identity = otherIdentity ↔ key = other := by
  have version := version_of_identified identified
  have otherVersion := version_of_identified otherIdentified
  have codes := history.assigned_code_iff (history.unprimed_task key)
    (history.unprimed_task other) (assigned_of_identified identified)
    (assigned_of_identified otherIdentified)
  obtain ⟨code, _⟩ := identity
  obtain ⟨otherCode, _⟩ := otherIdentity
  cases version
  cases otherVersion
  simpa using codes

/-- Whatever a server was asked and prepared with, identities and codes are
equal for equal subjects and for no others, and its counter skips no code. -/
theorem assignment (history : History server) :
    (∀ key other identity otherIdentity, history.Identified key identity →
      history.Identified other otherIdentity →
      identity.version = 0 ∧ (identity = otherIdentity ↔ key = other)) ∧
    (∀ subject other code otherCode, ¬ history.Primed subject →
      ¬ history.Primed other → history.Assigned subject code →
      history.Assigned other otherCode →
      (code = otherCode ↔ subject = other)) ∧
    (∀ code, (∃ subject, history.Issued subject code) ↔
      firstCode ≤ code ∧ code < server.nextCode) ∧
    ∀ {α : Type} (request : Request α) error,
      (server.answer request).1 = .error error →
      (server.answer request).2.nextCode = server.nextCode := by
  refine ⟨?_, ?_, history.issues.range, ?_⟩
  · intro key other identity otherIdentity identified otherIdentified
    exact ⟨version_of_identified identified,
      history.identified_iff identified otherIdentified⟩
  · intro subject other code otherCode unprimed otherUnprimed assigned
      otherAssigned
    exact history.assigned_code_iff unprimed otherUnprimed assigned
      otherAssigned
  · intro α request error failed
    exact Server.nextCode_of_failed failed

def askedWorkflow : WorkflowDefinition where
  user := "u"
  project := "p"
  name := "w"
  description := ""
  globalParams := "[]"
  warningType := "NONE"
  warningGroupId := 0
  executionType := "PARALLEL"
  timeout := 0
  workerGroup := "default"
  releaseState := 1
  taskRelationJson := "[]"
  taskDefinitionJson := "[]"
  scheduleJson := none
  onlineSchedule := false
  otherParamsJson := none

def asked : (server : Server) × History server := ⟨_,
  start.prime (.workflow "p" "old" 1000)
    |>.call (.taskIdentity "p" "w" "a")
    |>.call (.saveWorkflow askedWorkflow)
    |>.call (.taskIdentity "p" "w" "b")
    |>.call (.saveWorkflow askedWorkflow)
    |>.call (.taskIdentity "p" "w" "a")
    |>.prime (.failure .taskIdentity "down")
    |>.call (.taskIdentity "p" "w" "c")⟩

theorem assignment_asked :
    asked.2.Identified ⟨"p", "w", "a"⟩ ⟨1000, 0⟩ ∧
      asked.2.Identified ⟨"p", "w", "b"⟩ ⟨1002, 0⟩ ∧
      (⟨1000, 0⟩ : TaskIdentity) ≠ ⟨1002, 0⟩ ∧
      ¬ asked.2.Primed (.workflow ⟨"p", "w"⟩) ∧
      asked.2.Assigned (.workflow ⟨"p", "w"⟩) 1001 ∧
      (∀ code, asked.2.Assigned (.workflow ⟨"p", "w"⟩) code → code = 1001) ∧
      (∃ subject, asked.2.Issued subject 1001) ∧
      (asked.1.answer (.taskIdentity "p" "w" "d")).2.nextCode = 1003 := by
  have first : asked.2.Identified ⟨"p", "w", "a"⟩ ⟨1000, 0⟩ :=
    .inr (.inl ⟨_, rfl, rfl⟩)
  have second : asked.2.Identified ⟨"p", "w", "b"⟩ ⟨1002, 0⟩ :=
    .inr (.inr (.inr (.inl ⟨_, rfl, rfl⟩)))
  have unprimed : ¬ asked.2.Primed (.workflow ⟨"p", "w"⟩) := by
    simp [asked, Primed, Priming.subject?]
  have saved : asked.2.Assigned (.workflow ⟨"p", "w"⟩) 1001 :=
    .inr (.inr (.inl ⟨_, rfl, rfl⟩))
  obtain ⟨identities, codes, issued, failing⟩ := assignment asked.2
  refine ⟨first, second, ?_, unprimed, saved, ?_, ?_, ?_⟩
  · intro same
    have sameKey := (identities _ _ _ _ first second).2.mp same
    revert sameKey
    decide
  · intro code assigned
    exact (codes _ _ _ _ unprimed unprimed assigned saved).mpr rfl
  · exact (issued 1001).mpr (by decide +kernel)
  · exact (failing (.taskIdentity "p" "w" "d") _ rfl).trans rfl

end History

end Orchestration.Gateway
