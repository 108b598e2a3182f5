import Orchestration.Proofs.Gateway.Progress

namespace Orchestration.Gateway

/-- What a code is handed out for. -/
inductive Subject where
  | task (key : TaskKey)
  | workflow (key : WorkflowKey)
deriving DecidableEq

namespace Request

def identified? : Request α → α → Option (TaskKey × TaskIdentity)
  | taskIdentity project workflow task, identity =>
      some (⟨project, workflow, task⟩, identity)
  | _, _ => none

/-- What has the code in an answer, with that code. -/
def assigned? : Request α → α → Option (Subject × Int)
  | taskIdentity project workflow task, identity =>
      some (.task ⟨project, workflow, task⟩, identity.code)
  | saveWorkflow definition, code =>
      some (.workflow ⟨definition.project, definition.name⟩, code)
  | _, _ => none

end Request

namespace Server

def code? (server : Server) : Subject → Option Int
  | .task key => (server.identities.lookup key).map (·.code)
  | .workflow key => (server.workflows.lookup key).map (·.code)

def Assigns (server : Server) (request : Request α) (subject : Subject)
    (code : Int) : Prop :=
  ∃ value, (server.answer request).1 = .ok value ∧
    request.assigned? value = some (subject, code)

end Server

namespace Server

open Request (assigned?)

variable {server : Server} {request : Request α} {reply : Reply α}
  {subject : Subject}

@[simp] theorem code?_log (server : Server) (methods : List Method)
    (subject : Subject) :
    (server.log methods).code? subject = server.code? subject := by
  cases subject <;> rfl

/-- The server held the codes in the reply before, and holds no others now. -/
structure Recalls (server : Server) (request : Request α) (reply : Reply α) :
    Prop where
  nextCode : reply.2.nextCode = server.nextCode
  code? : ∀ subject, reply.2.code? subject = server.code? subject
  assigned : ∀ value subject code, reply.1 = .ok value →
    request.assigned? value = some (subject, code) →
    server.code? subject = some code

/-- The reply has the next code, for a subject that had none. -/
structure Allocates (server : Server) (request : Request α) (reply : Reply α)
    (subject : Subject) : Prop where
  free : server.code? subject = none
  nextCode : reply.2.nextCode = server.nextCode + 1
  code? : ∀ other, reply.2.code? other =
    if other = subject then some server.nextCode else server.code? other
  assigned : ∃ value, reply.1 = .ok value ∧
    request.assigned? value = some (subject, server.nextCode)

theorem recalls_of_kept (nextCode : reply.2.nextCode = server.nextCode)
    (identities : reply.2.identities = server.identities)
    (workflows : reply.2.workflows = server.workflows)
    (unassigned : ∀ value, reply.1 = .ok value →
      request.assigned? value = none) : Recalls server request reply where
  nextCode := nextCode
  code? subject := by
    cases subject with
    | task key => rw [code?, identities, code?]
    | workflow key => rw [code?, workflows, code?]
  assigned value subject code replied assigned := by
    rw [unassigned value replied] at assigned
    cases assigned

theorem lookup_cons_map {κ ν β : Type} [DecidableEq κ]
    (entries : List (κ × ν)) (key other : κ) (value : ν) (field : ν → β) :
    (((key, value) :: entries).lookup other).map field =
      if other = key then some (field value)
      else (entries.lookup other).map field := by
  rw [List.lookup_cons]
  by_cases same : other = key
  · simp [same]
  · simp [same, beq_false_of_ne same]

theorem identify_cases (server : Server) (project workflow task : String) :
    Recalls server (.taskIdentity project workflow task)
        (server.identify ⟨project, workflow, task⟩) ∨
      Allocates server (.taskIdentity project workflow task)
        (server.identify ⟨project, workflow, task⟩)
        (.task ⟨project, workflow, task⟩) := by
  rw [identify]
  cases held : server.identities.lookup ⟨project, workflow, task⟩ with
  | some identity =>
      refine .inl ⟨rfl, fun _ => rfl, ?_⟩
      intro value subject code replied assigned
      cases replied
      cases assigned
      rw [code?, held]
      rfl
  | none =>
      refine .inr ⟨by rw [code?, held]; rfl, rfl, fun other => ?_, _, rfl, rfl⟩
      cases other with
      | task key => simp [code?, lookup_cons_map]
      | workflow key => rfl

theorem accept_cases (server : Server) (definition : WorkflowDefinition) :
    Recalls server (.saveWorkflow definition) (server.accept definition) ∨
      Allocates server (.saveWorkflow definition) (server.accept definition)
        (.workflow ⟨definition.project, definition.name⟩) := by
  rw [accept]
  cases held : server.workflows.lookup
      ⟨definition.project, definition.name⟩ with
  | some info =>
      refine .inl ⟨rfl, fun subject => by cases subject <;> rfl, ?_⟩
      intro value subject code replied assigned
      cases replied
      cases assigned
      rw [code?, held]
      rfl
  | none =>
      refine .inr ⟨by rw [code?, held]; rfl, rfl, fun other => ?_, _, rfl, rfl⟩
      cases other with
      | task key => rfl
      | workflow key => simp [code?, lookup_cons_map]

theorem serve_unassigned (server : Server) {request : Request α}
    (unassigned : ∀ value, request.assigned? value = none) :
    (server.serve request).2.nextCode = server.nextCode ∧
      (server.serve request).2.identities = server.identities ∧
      (server.serve request).2.workflows = server.workflows := by
  cases request with
  | taskIdentity project workflow task => cases unassigned ⟨0, 0⟩
  | saveWorkflow definition => cases unassigned 0
  | saveUser user =>
      rw [serve, enroll]
      split <;> exact ⟨rfl, rfl, rfl⟩
  | startWorkflow start =>
      rw [serve, launch]
      split <;> exact ⟨rfl, rfl, rfl⟩
  | version => exact ⟨rfl, rfl, rfl⟩
  | saveResource user name content => exact ⟨rfl, rfl, rfl⟩
  | grantProject user name description => exact ⟨rfl, rfl, rfl⟩
  | _ =>
      rw [serve_lookup server rfl]
      exact ⟨rfl, rfl, rfl⟩

theorem recalls_of_unassigned (server : Server) {request : Request α}
    (unassigned : ∀ value, request.assigned? value = none) :
    Recalls server request (server.serve request) := by
  obtain ⟨nextCode, identities, workflows⟩ := server.serve_unassigned unassigned
  exact recalls_of_kept nextCode identities workflows fun value _ =>
    unassigned value

theorem serve_cases (server : Server) (request : Request α) :
    Recalls server request (server.serve request) ∨
      ∃ subject, Allocates server request (server.serve request) subject := by
  cases request with
  | taskIdentity project workflow task =>
      exact (server.identify_cases project workflow task).imp_right fun taken =>
        ⟨_, taken⟩
  | saveWorkflow definition =>
      exact (server.accept_cases definition).imp_right fun taken => ⟨_, taken⟩
  | _ => exact .inl (server.recalls_of_unassigned fun _ => rfl)

theorem answer_cases (server : Server) (request : Request α) :
    Recalls server request (server.answer request) ∨
      ∃ subject, Allocates server request (server.answer request) subject := by
  cases primed : server.primed request.method with
  | some error =>
      rw [answer_of_primed primed]
      exact .inl (recalls_of_kept rfl rfl rfl nofun)
  | none =>
      rw [answer_of_unprimed primed]
      rcases (server.log [request.method]).serve_cases request with
        recalls | ⟨subject, allocates⟩
      · refine .inl ⟨recalls.nextCode, fun other => ?_, ?_⟩
        · rw [recalls.code?, code?_log]
        · intro value other code replied assigned
          rw [← code?_log server [request.method]]
          exact recalls.assigned value other code replied assigned
      · refine .inr ⟨subject, ?_, allocates.nextCode, fun other => ?_,
          allocates.assigned⟩
        · rw [← code?_log server [request.method], allocates.free]
        · rw [allocates.code?, code?_log]
          rfl

theorem nextCode_of_failed {error : Error}
    (failed : (server.answer request).1 = .error error) :
    (server.answer request).2.nextCode = server.nextCode := by
  rcases answer_cases server request with recalls | ⟨subject, allocates⟩
  · exact recalls.nextCode
  · obtain ⟨value, replied, -⟩ := allocates.assigned
    rw [failed] at replied
    cases replied

theorem identities_answer (server : Server) (request : Request α) :
    (server.answer request).2.identities = server.identities ∨
      ∃ key, server.identities.lookup key = none ∧
        (server.answer request).2.identities =
          (key, ⟨server.nextCode, 0⟩) :: server.identities := by
  cases primed : server.primed request.method with
  | some error =>
      rw [answer_of_primed primed]
      exact .inl rfl
  | none =>
      rw [answer_of_unprimed primed]
      cases request with
      | taskIdentity project workflow task =>
          rw [serve, identify]
          split
          next => exact .inl rfl
          next free => exact .inr ⟨_, free, rfl⟩
      | saveWorkflow definition =>
          rw [serve, accept]
          split <;> exact .inl rfl
      | _ => exact .inl (serve_unassigned _ fun _ => rfl).2.1

theorem lookup_identify (server : Server) {key : TaskKey}
    {identity : TaskIdentity}
    (replied : (server.identify key).1 = .ok identity) :
    (server.identify key).2.identities.lookup key = some identity := by
  rw [identify] at replied ⊢
  cases held : server.identities.lookup key with
  | some known =>
      simp only [held] at replied ⊢
      cases replied
      rfl
  | none =>
      simp only [held] at replied ⊢
      cases replied
      exact List.lookup_cons_self

theorem lookup_of_identified {value : α} {key : TaskKey}
    {identity : TaskIdentity} (replied : (server.answer request).1 = .ok value)
    (identified : request.identified? value = some (key, identity)) :
    (server.answer request).2.identities.lookup key = some identity := by
  cases request with
  | taskIdentity project workflow task =>
      cases identified
      cases primed : server.primed .taskIdentity with
      | some error =>
          rw [answer_of_primed primed] at replied
          cases replied
      | none =>
          rw [answer_of_unprimed primed] at replied ⊢
          exact lookup_identify _ replied
  | _ => cases identified

/-- The codes of tasks are all below the next one and differ. -/
structure Faithful (server : Server) : Prop where
  below : ∀ key code, server.code? (.task key) = some code →
    code < server.nextCode
  distinct : ∀ key other code, server.code? (.task key) = some code →
    server.code? (.task other) = some code → key = other

/-- A server that knows as much about tasks as another one or more. -/
structure Grows (before after : Server) : Prop where
  held : ∀ key code, before.code? (.task key) = some code →
    after.code? (.task key) = some code
  faithful : before.Faithful → after.Faithful

theorem faithful_new : Faithful {} where
  below _ _ held := by cases held
  distinct _ _ _ held := by cases held

namespace Grows

theorem refl (server : Server) : Grows server server :=
  ⟨fun _ _ held => held, id⟩

theorem trans {before middle after : Server} (first : Grows before middle)
    (second : Grows middle after) : Grows before after where
  held key code held := second.held key code (first.held key code held)
  faithful faithful := second.faithful (first.faithful faithful)

theorem of_same {before after : Server}
    (nextCode : after.nextCode = before.nextCode)
    (code? : ∀ key, after.code? (.task key) = before.code? (.task key)) :
    Grows before after where
  held key code held := by rwa [code?]
  faithful faithful := by
    refine ⟨fun key code held => ?_, fun key other code held otherHeld => ?_⟩
    · rw [code?] at held
      rw [nextCode]
      exact faithful.below key code held
    · rw [code?] at held otherHeld
      exact faithful.distinct key other code held otherHeld

theorem log (server : Server) (methods : List Method) :
    Grows server (server.log methods) :=
  of_same rfl fun _ => code?_log server methods _

theorem allocate {reply : Reply α}
    (allocates : Allocates server request reply subject) :
    Grows server reply.2 where
  held key code held := by
    have different : .task key ≠ subject := by
      rintro rfl
      rw [allocates.free] at held
      cases held
    rw [allocates.code?, if_neg different, held]
  faithful faithful := by
    refine ⟨fun key code held => ?_, fun key other code held otherHeld => ?_⟩
    · rw [allocates.code?] at held
      rw [allocates.nextCode]
      split at held
      · cases held
        omega
      · have below := faithful.below key code held
        omega
    · rw [allocates.code?] at held otherHeld
      split at held
      next new =>
        split at otherHeld
        next otherNew => exact Subject.task.inj (new.trans otherNew.symm)
        next =>
          cases held
          have below := faithful.below other _ otherHeld
          omega
      next =>
        split at otherHeld
        next =>
          cases otherHeld
          have below := faithful.below key _ held
          omega
        next => exact faithful.distinct key other code held otherHeld

theorem answer (server : Server) (request : Request α) :
    Grows server (server.answer request).2 := by
  rcases answer_cases server request with recalls | ⟨subject, allocates⟩
  · exact of_same recalls.nextCode fun key => recalls.code? _
  · exact allocate allocates

end Grows

end Server

end Orchestration.Gateway
