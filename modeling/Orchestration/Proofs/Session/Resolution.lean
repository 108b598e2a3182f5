import Orchestration.Proofs.SortedMap
import Orchestration.Proofs.Session.Outcome

namespace Orchestration

open Gateway (Exchange Request Server Upload)

namespace Gateway

namespace Server

variable {server : Server} {user name : String}

theorem resourceFile_ok {info : ResourceInfo}
    (told : (server.answer (.resourceFile user name)).1 = .ok info) :
    server.resources.lookup name = some info.fullName := by
  cases primed : server.primed (Request.resourceFile user name).method with
  | some error =>
      rw [answer_of_primed primed] at told
      cases told
  | none =>
      rw [answer_of_unprimed primed, serve] at told
      change ((server.log _).found ((server.resources.lookup name).map _) _).1 =
        _ at told
      cases found : server.resources.lookup name with
      | some path =>
          rw [found] at told
          cases told
          rfl
      | none =>
          rw [found] at told
          cases told

end Server

namespace Exchange

theorem ask_run (request : Request α) (server : Server) :
    ((Exchange.ask request).run server).1 =
      (server.answer request).1.mapError Error.gateway := rfl

theorem ask_ok {request : Request α} {server : Server} {value : α}
    (told : ((Exchange.ask request).run server).1 = .ok value) :
    (server.answer request).1 = .ok value := by
  rw [ask_run] at told
  cases answered : (server.answer request).1 with
  | ok other =>
      rw [answered] at told
      cases told
      rfl
  | error error =>
      rw [answered] at told
      cases told

/-- What comes out of a sequence is what comes out of its parts at the server
that the sequence starts from. -/
theorem Looks.outcome_bind {exchange : Exchange α}
    {next : α → Exchange β} (first : Looks exchange)
    (rest : ∀ value, Looks (next value)) (server : Server) :
    ((exchange >>= next).run server).1 =
      (exchange.run server).1 >>= fun value => ((next value).run server).1 := by
  have kept := first.unlogged_run server
  rw [run_bind]
  generalize exchange.run server = reached at kept ⊢
  obtain ⟨outcome, middle⟩ := reached
  cases outcome with
  | ok value => exact (rest value).agrees middle server kept
  | error error => rfl

end Exchange

end Gateway

/-- The names are the full names of the references, each once and in ascending
order. -/
structure FullNames (fullName? : ResourceReference → Option String)
    (references : List ResourceReference) (names : List String) : Prop where
  ascending : names.Pairwise (· < ·)
  complete : ∀ reference ∈ references,
    ∃ name ∈ names, fullName? reference = some name
  sound : ∀ name ∈ names,
    ∃ reference ∈ references, fullName? reference = some name

namespace ResourceReference

variable {server : Server} {user : Option String}
  {reference : ResourceReference} {references : List ResourceReference}
  {error : Error}

def fullNameAt (server : Server) : ResourceReference → Option String
  | named name => server.resources.lookup name
  | resolved fullName => some fullName

theorem resolve_ok {name : String}
    (told : ((reference.resolve user).run server).1 = .ok name) :
    reference.fullNameAt server = some name := by
  cases reference with
  | resolved fullName =>
      cases told
      rfl
  | named asked =>
      rw [resolve] at told
      split at told
      next =>
        rw [Exchange.Looks.outcome_bind (.ask rfl) fun _ => .pure _] at told
        obtain ⟨info, answered, told⟩ := Except.bind_ok told
        cases told
        exact Server.resourceFile_ok (Exchange.ask_ok answered)
      next => cases told

theorem resolveInto_outcome (names : SortedSet String) :
    ((resolveInto user names (reference :: references)).run server).1 =
      ((reference.resolve user).run server).1 >>= fun name =>
        ((resolveInto user (SortedSet.add names name) references).run
          server).1 :=
  Exchange.Looks.outcome_bind (resolve_looks _ _)
    (fun _ => resolveInto_looks _ _ _) _

theorem resolveAll_outcome :
    ((resolveAll user references).run server).1 =
      ((resolveInto user .empty references).run server).1 >>= fun found =>
        .ok (found.toList.map ResourceRecord.mk) :=
  Exchange.Looks.outcome_bind (resolveInto_looks _ _ _) (fun _ => .pure _) _

theorem resolveInto_ok {names found : SortedSet String}
    (told : ((resolveInto user names references).run server).1 = .ok found) :
    (∀ reference ∈ references,
      ∃ name, reference.fullNameAt server = some name) ∧
      ∀ name, name ∈ SortedSet.toList found ↔ name ∈ SortedSet.toList names ∨
        ∃ reference ∈ references, reference.fullNameAt server = some name := by
  induction references generalizing names with
  | nil =>
      cases told
      simp
  | cons reference rest induction =>
      rw [resolveInto_outcome] at told
      obtain ⟨first, resolved, told⟩ := Except.bind_ok told
      obtain ⟨others, listed⟩ := induction told
      have known := resolve_ok resolved
      refine ⟨List.forall_mem_cons.mpr ⟨⟨first, known⟩, others⟩, fun name => ?_⟩
      rw [listed, SortedSet.mem_toList_add]
      simp only [List.mem_cons, exists_eq_or_imp, known, Option.some.injEq]
      grind

theorem resolveAll_ok {records : List ResourceRecord}
    (told : ((resolveAll user references).run server).1 = .ok records) :
    ∃ names, records = names.map ResourceRecord.mk ∧
      FullNames (fullNameAt server) references names := by
  rw [resolveAll_outcome] at told
  obtain ⟨found, resolved, told⟩ := Except.bind_ok told
  cases told
  obtain ⟨known, listed⟩ := resolveInto_ok resolved
  have empty : ∀ name : String,
      name ∉ SortedSet.toList (SortedMap.empty : SortedSet String) :=
    fun _ => List.not_mem_nil
  refine ⟨SortedSet.toList found, rfl, ?_, fun reference member => ?_,
    fun name member => ?_⟩
  · exact (SortedMap.keys_ascending found).imp of_decide_eq_true
  · obtain ⟨name, known⟩ := known reference member
    exact ⟨name, (listed name).mpr (.inr ⟨reference, member, known⟩), known⟩
  · exact ((listed name).mp member).resolve_left (empty name)

end ResourceReference

end Orchestration
