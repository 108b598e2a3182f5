import Mathlib.Data.List.Sort
import Orchestration.Proofs.Except
import Orchestration.Proofs.Session.Resolution

namespace Orchestration

open Gateway (Exchange Server)

/-! What a gateway is asked until all references to files are resolved, or until
one of them is not. -/

/-- Questions about files of users; what comes next depends on the answers. -/
inductive Inquiry (α : Type) where
  | done (outcome : Except Error α)
  | ask (user name : String) (next : ResourceInfo → Inquiry α)

namespace Inquiry

variable {α : Type} {server other : Server}

def run : Inquiry α → Exchange α
  | done outcome => Exchange.ofExcept outcome
  | ask user name next => do
      let info ← Exchange.ask (.resourceFile user name)
      (next info).run

def asked : Inquiry α → Server → List (String × String)
  | done _, _ => []
  | ask user name next, server =>
      (user, name) ::
        match server.answer (.resourceFile user name) with
        | (.ok info, after) => (next info).asked after
        | (.error _, _) => []

theorem asked_agrees (inquiry : Inquiry α)
    (same : server.unlogged = other.unlogged) :
    inquiry.asked server = inquiry.asked other := by
  induction inquiry generalizing server other with
  | done outcome => rfl
  | ask user name next induction =>
      have both := Server.answer_agrees same (.resourceFile user name)
      rw [asked, asked]
      generalize server.answer (.resourceFile user name) = reached at both ⊢
      generalize other.answer (.resourceFile user name) = otherReached at both ⊢
      obtain ⟨answer, after⟩ := reached
      obtain ⟨otherAnswer, otherAfter⟩ := otherReached
      obtain ⟨rfl, kept⟩ := both
      cases answer with
      | ok info => exact congrArg _ (induction info kept)
      | error error => rfl

/-- One entry in the log for each question, and nothing else. -/
theorem run_snd (inquiry : Inquiry α) (server : Server) :
    (inquiry.run server).2 =
      server.log (.replicate (inquiry.asked server).length .resourceFile) := by
  induction inquiry generalizing server with
  | done outcome => exact server.log_nil.symm
  | ask user name next induction =>
      have logged := server.answer_lookup
        (rfl : (Gateway.Request.resourceFile user name).method.isLookup)
      change ((Exchange.ask (.resourceFile user name) >>= fun info =>
        (next info).run).run server).2 = _
      rw [Exchange.run_bind, Exchange.run, Exchange.ask, asked]
      generalize server.answer (.resourceFile user name) = reached at logged ⊢
      obtain ⟨answer, after⟩ := reached
      obtain rfl : after = server.log [.resourceFile] := logged
      cases answer with
      | error error => rfl
      | ok info =>
          change ((next info).run _).2 = _
          rw [induction, Server.log_log]
          rfl

end Inquiry

namespace FullNames

variable {fullName? : ResourceReference → Option String}
  {references others : List ResourceReference} {names otherNames : List String}

theorem mem_iff (full : FullNames fullName? references names) {name : String} :
    name ∈ names ↔
      ∃ reference ∈ references, fullName? reference = some name := by
  refine ⟨full.sound name, ?_⟩
  rintro ⟨reference, member, known⟩
  obtain ⟨same, listed, alsoKnown⟩ := full.complete reference member
  cases known.symm.trans alsoKnown
  exact listed

/-- Neither the order of references nor their number counts. -/
theorem eq_of_same (full : FullNames fullName? references names)
    (otherFull : FullNames fullName? others otherNames)
    (same : ∀ reference, reference ∈ others ↔ reference ∈ references) :
    otherNames = names := by
  refine otherFull.ascending.eq_of_mem_iff full.ascending fun name => ?_
  simp only [otherFull.mem_iff, full.mem_iff, same]

end FullNames

namespace ResourceReference

variable {server : Server} {user : Option String} {names : SortedSet String}
  {reference : ResourceReference} {references others : List ResourceReference}
  {error : Error}

def inquiry (user : Option String) (names : SortedSet String) :
    List ResourceReference → Inquiry (List ResourceRecord)
  | [] => .done (.ok (names.toList.map ResourceRecord.mk))
  | named name :: rest =>
      match user.filter (!·.isEmpty) with
      | some owner =>
          .ask owner name fun info =>
            inquiry user (SortedSet.add names info.fullName) rest
      | none => .done (.error (.parameter (.userRequiredToResolve name)))
  | resolved fullName :: rest =>
      inquiry user (SortedSet.add names fullName) rest

theorem inquiry_run (user : Option String) (names : SortedSet String)
    (references : List ResourceReference) :
    (inquiry user names references).run = (do
      let found ← resolveInto user names references
      return found.toList.map ResourceRecord.mk) := by
  induction references generalizing names with
  | nil => rfl
  | cons reference rest induction =>
      rw [resolveInto, bind_assoc]
      cases reference with
      | resolved fullName =>
          rw [inquiry, induction, resolve, pure_bind]
      | named name =>
          rw [inquiry, resolve]
          cases user.filter (!·.isEmpty) with
          | none => rfl
          | some owner =>
              simp only [bind_assoc, pure_bind, Inquiry.run, induction]

def question? (user : Option String) :
    ResourceReference → Option (String × String)
  | named name =>
      (user.filter (!·.isEmpty)).map fun owner => (owner, name)
  | resolved _ => none

theorem asked_cons :
    (inquiry user names (reference :: references)).asked server =
      (reference.question? user).toList ++
        match ((reference.resolve user).run server).1 with
        | .ok name =>
            (inquiry user (SortedSet.add names name) references).asked server
        | .error _ => [] := by
  cases reference with
  | resolved fullName => rfl
  | named name =>
      rw [inquiry, question?, resolve]
      cases user.filter (!·.isEmpty) with
      | none => rfl
      | some owner =>
          have logged := server.answer_lookup
            (rfl : (Gateway.Request.resourceFile owner name).method.isLookup)
          dsimp only
          rw [Exchange.Looks.outcome_bind (.ask rfl) fun _ => .pure _,
            Exchange.ask_run, Inquiry.asked]
          generalize server.answer (.resourceFile owner name) = reached
            at logged ⊢
          obtain ⟨answer, after⟩ := reached
          obtain rfl : after = server.log [.resourceFile] := logged
          cases answer with
          | error error => rfl
          | ok info => exact congrArg _ (Inquiry.asked_agrees _ rfl)

theorem asked_of_ok {found : SortedSet String}
    (told : ((resolveInto user names references).run server).1 = .ok found) :
    (inquiry user names references).asked server =
      references.filterMap (question? user) := by
  induction references generalizing names with
  | nil => rfl
  | cons reference rest induction =>
      rw [resolveInto_outcome] at told
      obtain ⟨name, first, told⟩ := Except.bind_ok told
      rw [asked_cons, first, List.filterMap_cons]
      dsimp only
      rw [induction told]
      cases reference.question? user <;> rfl

/-- A reference that is not resolved at a server, behind others that are. -/
structure StopsAt (server : Server) (user : Option String)
    (before : List ResourceReference) (reference : ResourceReference)
    (error : Error) : Prop where
  earlier : ∀ earlier ∈ before,
    ∃ name, ((earlier.resolve user).run server).1 = .ok name
  failed : ((reference.resolve user).run server).1 = .error error

theorem asked_of_error
    (failed : ((resolveInto user names references).run server).1 =
      .error error) :
    ∃ before reference, before ++ [reference] <+: references ∧
      StopsAt server user before reference error ∧
      (inquiry user names references).asked server =
        (before ++ [reference]).filterMap (question? user) := by
  induction references generalizing names with
  | nil => cases failed
  | cons reference rest induction =>
      rw [resolveInto_outcome] at failed
      rw [asked_cons]
      rcases Except.bind_error failed with first | ⟨name, first, failed⟩
      · refine ⟨[], reference, List.prefix_append [reference] rest,
          ⟨by simp, first⟩, ?_⟩
        rw [first, List.nil_append, List.filterMap_cons]
        cases reference.question? user <;> rfl
      · obtain ⟨before, stop, place, stops, asked⟩ := induction failed
        refine ⟨reference :: before, stop,
          List.cons_prefix_cons.mpr ⟨rfl, place⟩,
          ⟨List.forall_mem_cons.mpr ⟨⟨name, first⟩, stops.earlier⟩,
            stops.failed⟩, ?_⟩
        rw [first, List.cons_append, List.filterMap_cons]
        dsimp only
        rw [asked]
        cases reference.question? user <;> rfl

theorem exists_resolveInto_iff :
    (∃ found,
      ((resolveInto user names references).run server).1 = .ok found) ↔
      ∀ reference ∈ references,
        ∃ name, ((reference.resolve user).run server).1 = .ok name := by
  induction references generalizing names with
  | nil => exact iff_of_true ⟨names, rfl⟩ (List.forall_mem_nil _)
  | cons reference rest induction =>
      rw [resolveInto_outcome, Except.exists_bind_ok_iff, List.forall_mem_cons]
      simp only [induction, exists_and_right]

theorem exists_resolveAll_iff :
    (∃ records,
      ((resolveAll user references).run server).1 = .ok records) ↔
      ∀ reference ∈ references,
        ∃ name, ((reference.resolve user).run server).1 = .ok name := by
  rw [resolveAll_outcome, Except.exists_bind_ok_iff]
  exact .trans (exists_congr fun found => and_iff_left ⟨_, rfl⟩)
    exists_resolveInto_iff

theorem resolveAll_ok_of_same {records : List ResourceRecord}
    (told : ((resolveAll user references).run server).1 = .ok records)
    (same : ∀ reference, reference ∈ others ↔ reference ∈ references) :
    ((resolveAll user others).run server).1 = .ok records := by
  have every := exists_resolveAll_iff.mp ⟨records, told⟩
  obtain ⟨otherRecords, otherTold⟩ :=
    exists_resolveAll_iff.mpr fun reference member =>
      every reference ((same reference).mp member)
  obtain ⟨names, rfl, full⟩ := resolveAll_ok told
  obtain ⟨otherNames, rfl, otherFull⟩ := resolveAll_ok otherTold
  rw [otherTold, full.eq_of_same otherFull same]

theorem exists_resolve_iff_of_noUser (absent : ∀ name ∈ user, name = "") :
    (∃ name, ((reference.resolve user).run server).1 = .ok name) ↔
      ∀ name, reference ≠ named name := by
  have nobody : user.filter (!·.isEmpty) = none := by
    rw [Option.filter_eq_none_iff]
    intro name given
    simp [absent name given]
  cases reference with
  | resolved fullName =>
      refine iff_of_true ⟨fullName, rfl⟩ fun name same => ?_
      cases same
  | named name =>
      rw [resolve, nobody]
      refine iff_of_false ?_ fun other => other name rfl
      rintro ⟨fullName, told⟩
      cases told

theorem resolveAll_fails_iff_of_noUser (absent : ∀ name ∈ user, name = "") :
    (∃ error, ((resolveAll user references).run server).1 = .error error) ↔
      ∃ name, named name ∈ references := by
  have succeeds : (∃ records,
      ((resolveAll user references).run server).1 = .ok records) ↔
        ∀ reference ∈ references, ∀ name, reference ≠ named name := by
    rw [exists_resolveAll_iff]
    exact forall₂_congr fun _ _ => exists_resolve_iff_of_noUser absent
  rw [Except.exists_error_iff, succeeds]
  push Not
  exact ⟨fun ⟨_, member, name, same⟩ => ⟨name, same ▸ member⟩,
    fun ⟨name, member⟩ => ⟨_, member, name, rfl⟩⟩

/-- Records of references are the full names, each once and in ascending order,
however the references are ordered and repeated. Without a user, just the
references that are full names are resolved. If one is not resolved, the first
such one gives the error, and the names up to it, or all of them otherwise, are
what the gateway is asked for, one by one. Nothing but the log of the gateway
changes. -/
theorem resolution (server : Server) (user : Option String)
    (references : List ResourceReference) :
    (inquiry user .empty references).run = resolveAll user references ∧
      (∀ records, ((resolveAll user references).run server).1 = .ok records →
        (∃ names, records = names.map ResourceRecord.mk ∧
          FullNames (fullNameAt server) references names) ∧
        (inquiry user .empty references).asked server =
          references.filterMap (question? user) ∧
        ∀ others,
          (∀ reference, reference ∈ others ↔ reference ∈ references) →
            ((resolveAll user others).run server).1 = .ok records) ∧
      ((∀ name ∈ user, name = "") →
        ((∃ error,
          ((resolveAll user references).run server).1 = .error error) ↔
          ∃ name, named name ∈ references)) ∧
      (∀ error,
        ((resolveAll user references).run server).1 = .error error →
          ∃ before reference, before ++ [reference] <+: references ∧
            StopsAt server user before reference error ∧
            (inquiry user .empty references).asked server =
              (before ++ [reference]).filterMap (question? user)) ∧
      ((resolveAll user references).run server).2 =
        server.log (.replicate
          ((inquiry user .empty references).asked server).length
          .resourceFile) := by
  have runs : (inquiry user .empty references).run =
      resolveAll user references := inquiry_run user .empty references
  refine ⟨runs, fun records told => ⟨resolveAll_ok told, ?asked, ?same⟩,
    resolveAll_fails_iff_of_noUser, fun error failed => ?failed, ?log⟩
  case asked =>
    rw [resolveAll_outcome] at told
    obtain ⟨found, told, -⟩ := Except.bind_ok told
    exact asked_of_ok told
  case same => exact fun others => resolveAll_ok_of_same told
  case failed =>
    rw [resolveAll_outcome] at failed
    rcases Except.bind_error failed with failed | ⟨_, -, impossible⟩
    · exact asked_of_error failed
    · cases impossible
  case log =>
    rw [← runs]
    exact (inquiry user .empty references).run_snd server

theorem resolution_twoNames :
    let server : Server := { resources := [("a", "/f"), ("b", "/f")] }
    let references : List ResourceReference :=
      [.named "b", .resolved "/e", .named "a"]
    let unknown : List ResourceReference := [.named "b", .named "c", .named "a"]
    ((resolveAll (some "u") (.named "a" :: references.reverse)).run server).1 =
        .ok [⟨"/e"⟩, ⟨"/f"⟩] ∧
      (∃ error,
        ((resolveAll (some "") references).run server).1 = .error error) ∧
      (inquiry (some "u") .empty unknown).asked server =
        [("u", "b"), ("u", "c")] ∧
      ∃ before reference, before ++ [reference] <+: unknown ∧
        (before ++ [reference]).filterMap (question? (some "u")) =
          [("u", "b"), ("u", "c")] := by
  intro server references unknown
  obtain ⟨-, told, -⟩ := resolution server (some "u") references
  obtain ⟨-, -, nobody, -⟩ := resolution server (some "") references
  obtain ⟨-, -, -, failed, -⟩ := resolution server (some "u") unknown
  have resolved := told [⟨"/e"⟩, ⟨"/f"⟩] (by rfl)
  obtain ⟨before, reference, place, -, asked⟩ := failed _ (by rfl)
  refine ⟨resolved.2.2 _ fun reference => ?_,
    (nobody (by simp)).mpr ⟨"b", List.mem_cons_self⟩, by rfl,
    before, reference, place, asked.symm⟩
  simp only [references, List.mem_cons, List.mem_reverse]
  tauto

end ResourceReference

end Orchestration
