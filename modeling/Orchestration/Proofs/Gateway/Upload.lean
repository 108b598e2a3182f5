import Orchestration.Proofs.Gateway.Rejection

namespace Orchestration.Gateway

/-! Files at a gateway go by their names alone: whoever asks for one gets the
upload that came last, whoever made it. -/

namespace Priming

def isPlain : Priming → Bool
  | resource _ _ | failure _ _ => false
  | _ => true

end Priming

namespace History

def Plain : History server → Prop
  | start => True
  | call history _ => history.Plain
  | prime history priming => priming.isPlain = true ∧ history.Plain

def saved : History server → List Upload
  | start => []
  | @call before _ history request =>
      match (before.answer request).1 with
      | .ok _ => history.saved ++ request.uploads
      | .error _ => history.saved
  | prime history _ => history.saved

end History

namespace Server

variable {server : Server}

theorem failures_answer (server : Server) (request : Request α) :
    (server.answer request).2.failures = server.failures := by
  rw [answer]
  split
  next => rfl
  next => exact (serve_serves _ request).failures

theorem failures_apply {priming : Priming} (plain : priming.isPlain = true) :
    (priming.apply server).failures = server.failures := by
  cases priming with
  | failure method message => cases plain
  | _ => rfl

theorem resources_apply {priming : Priming} (plain : priming.isPlain = true) :
    (priming.apply server).resources = server.resources := by
  cases priming with
  | resource name fullName => cases plain
  | _ => rfl

/-- Asking for a file is looking up its name. The user only comes into the
error. -/
theorem answer_resourceFile (unprimed : server.primed .resourceFile = none)
    (user name : String) :
    (server.answer (.resourceFile user name)).1 =
      ((server.log [.resourceFile]).found
        ((server.resources.lookup name).map fun path => { fullName := path })
        (.notFound
          ("resource " ++ name ++ " does not exist for user " ++ user))).1 := by
  have served : server.answer (.resourceFile user name) =
      (server.log [.resourceFile]).serve (.resourceFile user name) :=
    answer_of_unprimed unprimed
  rw [served]
  rfl

theorem found_ok_iff {value : Option α} {found : α} {missing : Error} :
    (server.found value missing).1 = .ok found ↔ value = some found := by
  cases value with
  | none => simp [Server.found]
  | some value => simp [Server.found]

end Server

theorem Request.reverse_uploads (request : Request α) :
    request.uploads.reverse = request.uploads := by
  cases request <;> rfl

/-- The last upload of a file is one with this user. -/
def LastBy (uploads : List Upload) (name user : String) : Prop :=
  ∃ before upload after, uploads = before ++ upload :: after ∧
    upload.name = name ∧ upload.user = user ∧
    ∀ later ∈ after, later.name ≠ name

/-- New entries of the table stand first, so that they hide old ones. -/
theorem lookup_entries_eq_some_iff {uploads : List Upload}
    {name path : String} :
    (uploads.reverse.map Upload.entry).lookup name = some path ↔
      ∃ user, LastBy uploads name user ∧
        path = Server.resourcePath user name := by
  rw [List.lookup_eq_some_iff]
  constructor
  · rintro ⟨newer, older, split, others⟩
    obtain ⟨after, rest, reversed, rfl, tail⟩ := List.map_eq_append_iff.mp split
    obtain ⟨upload, before, rfl, same, -⟩ := List.map_eq_cons_iff.mp tail
    obtain ⟨rfl, rfl⟩ := Prod.mk.inj same
    refine ⟨upload.user, ⟨before.reverse, upload, after.reverse, ?_, rfl, rfl,
      fun later member same => ?_⟩, rfl⟩
    · simpa using congrArg List.reverse reversed
    · have other := others later.entry
        (List.mem_map_of_mem (List.mem_reverse.mp member))
      simp [Upload.entry, same] at other
  · rintro ⟨user, ⟨before, upload, after, rfl, rfl, rfl, last⟩, rfl⟩
    refine ⟨after.reverse.map Upload.entry, before.reverse.map Upload.entry,
      by simp [Upload.entry], fun entry member => ?_⟩
    obtain ⟨later, there, rfl⟩ := List.mem_map.mp member
    have other := last later (List.mem_reverse.mp there)
    simpa [Upload.entry] using other.symm

theorem lookup_entries_eq_none_iff {uploads : List Upload} {name : String} :
    (uploads.reverse.map Upload.entry).lookup name = none ↔
      ∀ upload ∈ uploads, upload.name ≠ name := by
  rw [List.lookup_eq_none_iff]
  simp only [List.mem_map, List.mem_reverse, forall_exists_index, and_imp,
    forall_apply_eq_imp_iff₂, Upload.entry, bne_iff_ne]
  exact forall₂_congr fun upload _ => ne_comm

theorem exists_lookup_entries_iff {uploads : List Upload} {name : String} :
    (∃ path, (uploads.reverse.map Upload.entry).lookup name = some path) ↔
      ∃ upload ∈ uploads, upload.name = name := by
  cases held : (uploads.reverse.map Upload.entry).lookup name with
  | none =>
      have absent := lookup_entries_eq_none_iff.mp held
      simpa using absent
  | some path =>
      obtain ⟨user, ⟨before, upload, after, rfl, named, -⟩, -⟩ :=
        lookup_entries_eq_some_iff.mp held
      exact ⟨fun _ => ⟨upload, by simp, named⟩, fun _ => ⟨path, rfl⟩⟩

namespace History

theorem failures_of_plain (history : History server) (plain : history.Plain) :
    server.failures = [] := by
  induction history with
  | start => rfl
  | call history request induction =>
      rw [Server.failures_answer, induction plain]
  | prime history priming induction =>
      rw [Server.failures_apply plain.1, induction plain.2]

theorem unprimed_of_plain (history : History server) (plain : history.Plain)
    (method : Method) : server.primed method = none := by
  rw [Server.primed, history.failures_of_plain plain]
  rfl

theorem resources_of_plain (history : History server) (plain : history.Plain) :
    server.resources = history.saved.reverse.map Upload.entry := by
  induction history with
  | start => rfl
  | @call before _ history request induction =>
      have held := induction plain
      have unprimed : before.primed request.method = none :=
        history.unprimed_of_plain plain request.method
      rw [saved]
      cases replied : (before.answer request).1 with
      | ok value =>
          rw [before.resources_answer unprimed, held]
          simp [request.reverse_uploads]
      | error error =>
          rw [Server.answer_of_rejects (Server.answer_error_iff.mp replied)]
          exact held
  | prime history priming induction =>
      rw [Server.resources_apply plain.1, induction plain.2, saved]

/-- Where neither files nor failures were primed, a file is found for a user if
and only if somebody uploaded one of its name, and it is the one that was
uploaded last. -/
theorem filing (history : History server) (plain : history.Plain)
    (user name : String) :
    ((∃ info, (server.answer (.resourceFile user name)).1 = .ok info) ↔
      ∃ upload ∈ history.saved, upload.name = name) ∧
    (∀ info, (server.answer (.resourceFile user name)).1 = .ok info ↔
      ∃ owner, LastBy history.saved name owner ∧
        info = { fullName := Server.resourcePath owner name }) ∧
    ((server.answer (.resourceFile user name)).1 = .error (.notFound
        ("resource " ++ name ++ " does not exist for user " ++ user)) ↔
      ∀ upload ∈ history.saved, upload.name ≠ name) := by
  rw [Server.answer_resourceFile
    (history.unprimed_of_plain plain .resourceFile) user name]
  simp only [Server.found_ok_iff, Server.found_error_iff, and_true,
    Option.map_eq_some_iff, Option.map_eq_none_iff,
    history.resources_of_plain plain, lookup_entries_eq_none_iff]
  refine ⟨?_, fun info => ?_⟩
  · rw [exists_comm]
    simp only [exists_and_left, exists_eq', and_true]
    exact exists_lookup_entries_iff
  · simp only [lookup_entries_eq_some_iff]
    constructor
    · rintro ⟨path, ⟨owner, last, rfl⟩, rfl⟩
      exact ⟨owner, last, rfl⟩
    · rintro ⟨owner, last, rfl⟩
      exact ⟨_, ⟨owner, last, rfl⟩, rfl⟩

def shared : (server : Server) × History server := ⟨_,
  start.prime (.environment "prod" 42)
    |>.call (.saveResource "alice" "a.sh" "echo a")
    |>.call (.saveResource "bob" "a.sh" "echo b")⟩

theorem plain_shared : shared.2.Plain := ⟨rfl, trivial⟩

theorem saved_shared : shared.2.saved =
    [⟨"alice", "a.sh", "echo a"⟩, ⟨"bob", "a.sh", "echo b"⟩] := rfl

theorem filing_shared :
    shared.2.Plain ∧
      (shared.1.answer (.resourceFile "bob" "a.sh")).1 =
        .ok { fullName := Server.resourcePath "bob" "a.sh" } ∧
      (shared.1.answer (.resourceFile "bob" "b.sh")).1 = .error (.notFound
        "resource b.sh does not exist for user bob") := by
  obtain ⟨-, found, -⟩ := filing shared.2 plain_shared "bob" "a.sh"
  obtain ⟨-, -, missing⟩ := filing shared.2 plain_shared "bob" "b.sh"
  have last : LastBy shared.2.saved "a.sh" "bob" :=
    ⟨[⟨"alice", "a.sh", "echo a"⟩], ⟨"bob", "a.sh", "echo b"⟩, [], saved_shared,
      rfl, rfl, nofun⟩
  refine ⟨plain_shared, (found _).mpr ⟨"bob", last, rfl⟩, missing.mpr ?_⟩
  rw [saved_shared]
  decide

/-- Files are not kept for each user: one who uploaded nothing finds the file,
and one who uploaded it finds that of another. -/
theorem filing_unowned :
    shared.2.Plain ∧
      (∀ upload ∈ shared.2.saved, upload.user ≠ "carol") ∧
      (shared.1.answer (.resourceFile "carol" "a.sh")).1 =
        .ok { fullName := Server.resourcePath "bob" "a.sh" } ∧
      ⟨"alice", "a.sh", "echo a"⟩ ∈ shared.2.saved ∧
      (shared.1.answer (.resourceFile "alice" "a.sh")).1 =
        .ok { fullName := Server.resourcePath "bob" "a.sh" } ∧
      Server.resourcePath "bob" "a.sh" ≠
        Server.resourcePath "alice" "a.sh" := by
  refine ⟨plain_shared, ?_, rfl, ?_, rfl, by decide⟩
  · rw [saved_shared]
    decide
  · rw [saved_shared]
    exact List.mem_cons_self

end History

end Orchestration.Gateway
