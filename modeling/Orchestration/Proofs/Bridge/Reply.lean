import Mathlib.Data.List.Forall2
import Orchestration.Bridge.Client
import Orchestration.Proofs.Except
import Orchestration.Proofs.Task.Statement

namespace Orchestration

open Gateway (Request)

/-! What calls of a bridge come to. Four things are looked at, each only if the
one before is in order: the status of the reply, the form of its body, the
status in the envelope, and the form of the answer. -/

namespace Envelope

def Spells (text word : String) : Prop :=
  List.Forall₂ (fun c letter => c = letter ∨ c = Text.upperAscii letter)
    text.toList word.toList

theorem lower_eq_iff_spells {text word : String}
    (small : word.toList.all Char.isLower = true) :
    Text.lower text = word ↔ Spells text word := by
  rw [Spells, Text.lower, ← String.toList_inj, String.toList_map]
  generalize text.toList = letters
  rw [List.all_eq_true] at small
  generalize word.toList = goal at small
  induction letters generalizing goal with
  | nil => simp [eq_comm]
  | cons c rest induction =>
      cases goal with
      | nil => simp
      | cons letter more =>
          rw [List.map_cons, List.cons.injEq, List.forall₂_cons,
            Text.lowerAscii_eq_iff (small letter List.mem_cons_self),
            induction more fun other among =>
              small other (List.mem_cons_of_mem _ among)]

theorem isSuccess_iff {envelope : Envelope} :
    envelope.isSuccess = true ↔ Spells envelope.status "success" := by
  rw [← lower_eq_iff_spells (by decide), isSuccess, Text.sameLetters,
    beq_iff_eq, show Text.lower success = "success" by decide +kernel]

variable [JsonForm α] {envelope : Envelope} {method : String}

theorem result_eq_ok_iff {value : α} :
    envelope.result method = .ok value ↔
      Spells envelope.status "success" ∧
        JsonForm.ofJson? envelope.data = some value := by
  rw [← isSuccess_iff, result]
  split
  next success =>
    cases decoded : (JsonForm.ofJson? envelope.data : Option α) <;>
      simp [success]
  next failed => simp [failed]

theorem result_of_failed (failed : ¬ Spells envelope.status "success") :
    (envelope.result method : Except Gateway.Error α) =
      .error (.remoteCall method envelope.failure) := by
  rw [result, if_neg (mt isSuccess_iff.mp failed)]

theorem result_of_undecodable (success : Spells envelope.status "success")
    (misfit : (JsonForm.ofJson? envelope.data : Option α) = none) :
    (envelope.result method : Except Gateway.Error α) =
      .error (Gateway.Error.undecodable.withContext method) := by
  rw [result, if_pos (isSuccess_iff.mpr success), misfit]

theorem context_of_result {error : Gateway.Error}
    (failed : (envelope.result method : Except Gateway.Error α) =
      .error error) :
    error.context = some method ∧ error.retryable = false := by
  by_cases success : Spells envelope.status "success"
  · cases decoded : (JsonForm.ofJson? envelope.data : Option α) with
    | none =>
        rw [result_of_undecodable success decoded] at failed
        cases failed
        exact ⟨rfl, rfl⟩
    | some value =>
        rw [result_eq_ok_iff.mpr ⟨success, decoded⟩] at failed
        cases failed
  · rw [result_of_failed success] at failed
    cases failed
    exact ⟨rfl, rfl⟩

end Envelope

namespace HttpStatus

theorem isSuccess_iff {status : HttpStatus} :
    status.isSuccess = true ↔ 200 ≤ status.code ∧ status.code ≤ 299 := by
  rw [isSuccess, Bool.and_eq_true, decide_eq_true_iff, decide_eq_true_iff,
    Nat.lt_succ_iff]

end HttpStatus

namespace BridgeReply

open Envelope (Spells)

/-- The connection is dropped, at once or behind a status that only announces
another one. -/
inductive Breaks : BridgeReply → Prop
  | dropped : Breaks .dropped
  | announced (status : HttpStatus) (body : ByteArray)
      (early : status.code < 200) (kept : status.code ≠ 101) :
      Breaks (.response status body)

theorem final?_eq_none_iff {reply : BridgeReply} :
    reply.final? = none ↔ reply.Breaks := by
  cases reply with
  | dropped => exact iff_of_true rfl .dropped
  | response status body =>
      have valid := status.valid
      rw [final?]
      split
      next preliminary =>
        simp only [HttpStatus.isPreliminary, Bool.and_eq_true,
          decide_eq_true_iff] at preliminary
        exact iff_of_true rfl
          (.announced status body preliminary.1.2 preliminary.2)
      next final =>
        refine iff_of_false nofun ?_
        rintro ⟨⟩
        apply final
        simp only [HttpStatus.isPreliminary, Bool.and_eq_true,
          decide_eq_true_iff]
        omega

theorem final?_eq_some_iff {reply : BridgeReply} {status : HttpStatus}
    {brought : ByteArray} :
    reply.final? = some (status, brought) ↔
      ∃ body, reply = .response status body ∧
        (status.code = 101 ∨ 200 ≤ status.code) ∧
        brought =
          if status.code = 204 ∨ status.code = 304 then .empty else body := by
  have bodiless : status.isBodiless = true ↔
      status.code = 204 ∨ status.code = 304 := by
    rw [HttpStatus.isBodiless, Bool.or_eq_true, decide_eq_true_iff,
      decide_eq_true_iff]
  have final : ¬ status.isPreliminary = true ↔
      status.code = 101 ∨ 200 ≤ status.code := by
    have valid := status.valid
    simp only [HttpStatus.isPreliminary, Bool.and_eq_true, decide_eq_true_iff]
    omega
  simp only [← bodiless, ← final]
  cases reply with
  | dropped => exact iff_of_false nofun nofun
  | response other body =>
      rw [final?]
      split
      next preliminary =>
        refine iff_of_false nofun ?_
        rintro ⟨_, ⟨⟩, final, -⟩
        exact final preliminary
      next settled =>
        constructor
        · rintro ⟨⟩
          exact ⟨body, rfl, settled, rfl⟩
        · rintro ⟨_, ⟨⟩, -, rfl⟩
          rfl

/-- The result of a call of a method, whose answers have a given form, is what
the reply asks for. -/
structure Decides (form : JsonForm α) (method : String) (reply : BridgeReply)
    (result : Except Gateway.Error α) : Prop where
  answered : ∀ value, result = .ok value ↔
    ∃ status body, ∃ envelope : Envelope, reply = .response status body ∧
      (200 ≤ status.code ∧ status.code ≤ 299) ∧ status.code ≠ 204 ∧
      JsonForm.readBytes? body = some envelope ∧
      Spells envelope.status "success" ∧
      form.ofJson? envelope.data = some value
  /-- Whatever the body is. -/
  refused : ∀ status body, reply = .response status body →
    status.code = 101 ∨ 300 ≤ status.code →
    ∃ error, result = .error error ∧ error.kind = .remoteCall ∧
      error.message = some ("gateway answered with HTTP " ++ status.text)
  garbled : ∀ status body, reply = .response status body →
    200 ≤ status.code ∧ status.code ≤ 299 →
    status.code = 204 ∨ (JsonForm.readBytes? body : Option Envelope) = none →
    ∃ error, result = .error error ∧ error.kind = .serialization
  failed : ∀ status body (envelope : Envelope),
    reply = .response status body →
    200 ≤ status.code ∧ status.code ≤ 299 → status.code ≠ 204 →
    JsonForm.readBytes? body = some envelope →
    ¬ Spells envelope.status "success" →
    ∃ error, result = .error error ∧ error.kind = .remoteCall ∧
      (∀ message, envelope.message = some message →
        error.message = some message) ∧
      (envelope.message = none →
        error.message = some ("gateway returned status " ++ envelope.status))
  misfit : ∀ status body (envelope : Envelope),
    reply = .response status body →
    200 ≤ status.code ∧ status.code ≤ 299 → status.code ≠ 204 →
    JsonForm.readBytes? body = some envelope →
    Spells envelope.status "success" →
    form.ofJson? envelope.data = none →
    ∃ error, result = .error error ∧ error.kind = .serialization
  broken : reply.Breaks →
    ∃ error, result = .error error ∧ error.kind = .networkError
  named : ∀ error, result = .error error → error.context = some method
  /-- Trying again may help just if there was no reply. -/
  retried : ∀ error, result = .error error →
    (error.retryable = true ↔ reply.Breaks)

section Result

variable [form : JsonForm α] {reply : BridgeReply} {method : String}
  {body : ByteArray} {status : HttpStatus} {envelope : Envelope}

theorem result_of_broken (broken : reply.final? = none) :
    (reply.result method : Except Gateway.Error α) = .error (lost method) := by
  rw [result, broken]

theorem result_of_refused (final : reply.final? = some (status, body))
    (outside : ¬ (200 ≤ status.code ∧ status.code ≤ 299)) :
    (reply.result method : Except Gateway.Error α) =
      .error (.remoteCall method
        ("gateway answered with HTTP " ++ status.text)) := by
  simp only [result, final, if_neg (mt HttpStatus.isSuccess_iff.mp outside)]

theorem result_of_garbled (final : reply.final? = some (status, body))
    (inside : 200 ≤ status.code ∧ status.code ≤ 299)
    (garbled : (JsonForm.readBytes? body : Option Envelope) = none) :
    (reply.result method : Except Gateway.Error α) =
      .error (unreadable method) := by
  simp only [result, final, if_pos (HttpStatus.isSuccess_iff.mpr inside),
    garbled]

theorem result_of_read (final : reply.final? = some (status, body))
    (inside : 200 ≤ status.code ∧ status.code ≤ 299)
    (read : JsonForm.readBytes? body = some envelope) :
    (reply.result method : Except Gateway.Error α) =
      envelope.result method := by
  simp only [result, final, if_pos (HttpStatus.isSuccess_iff.mpr inside), read]

theorem result_cases (reply : BridgeReply) (method : String) :
    (reply.final? = none ∧
      (reply.result method : Except Gateway.Error α) = .error (lost method)) ∨
    ∃ status body, reply.final? = some (status, body) ∧
      ((¬ (200 ≤ status.code ∧ status.code ≤ 299) ∧
          (reply.result method : Except Gateway.Error α) =
            .error (.remoteCall method
              ("gateway answered with HTTP " ++ status.text))) ∨
        ((200 ≤ status.code ∧ status.code ≤ 299) ∧
          (JsonForm.readBytes? body : Option Envelope) = none ∧
          (reply.result method : Except Gateway.Error α) =
            .error (unreadable method)) ∨
        ∃ envelope : Envelope, (200 ≤ status.code ∧ status.code ≤ 299) ∧
          JsonForm.readBytes? body = some envelope ∧
          (reply.result method : Except Gateway.Error α) =
            envelope.result method) := by
  cases final : reply.final? with
  | none => exact .inl ⟨rfl, result_of_broken final⟩
  | some brought =>
      obtain ⟨status, body⟩ := brought
      refine .inr ⟨status, body, rfl, ?_⟩
      by_cases inside : 200 ≤ status.code ∧ status.code ≤ 299
      · cases read : (JsonForm.readBytes? body : Option Envelope) with
        | none =>
            exact .inr (.inl
              ⟨inside, rfl, result_of_garbled final inside read⟩)
        | some envelope =>
            exact .inr (.inr ⟨envelope, inside, rfl,
              result_of_read final inside read⟩)
      · exact .inl ⟨inside, result_of_refused final inside⟩

theorem result_eq_ok_iff {value : α} :
    reply.result method = .ok value ↔
      ∃ status body, ∃ envelope : Envelope, reply.final? = some (status, body) ∧
        (200 ≤ status.code ∧ status.code ≤ 299) ∧
        JsonForm.readBytes? body = some envelope ∧
        Spells envelope.status "success" ∧
        JsonForm.ofJson? envelope.data = some value := by
  constructor
  · intro answered
    obtain ⟨-, outcome⟩ | ⟨status, body, final, outcome⟩ :=
      result_cases (α := α) reply method
    · rw [outcome] at answered
      cases answered
    obtain ⟨-, outcome⟩ | ⟨-, -, outcome⟩ | ⟨envelope, inside, read, outcome⟩ :=
      outcome
    · rw [outcome] at answered
      cases answered
    · rw [outcome] at answered
      cases answered
    · rw [outcome] at answered
      exact ⟨status, body, envelope, final, inside, read,
        Envelope.result_eq_ok_iff.mp answered⟩
  · rintro ⟨status, body, envelope, final, inside, read, answer⟩
    rw [result_of_read final inside read]
    exact Envelope.result_eq_ok_iff.mpr answer

theorem result_error {error : Gateway.Error}
    (failed : (reply.result method : Except Gateway.Error α) = .error error) :
    error.context = some method ∧
      (error.retryable = true ↔ reply.final? = none) := by
  obtain ⟨broken, outcome⟩ | ⟨status, body, final, outcome⟩ :=
    result_cases (α := α) reply method
  · rw [outcome] at failed
    cases failed
    exact ⟨rfl, iff_of_true rfl broken⟩
  have arrived : reply.final? ≠ none := by simp [final]
  obtain ⟨-, outcome⟩ | ⟨-, -, outcome⟩ | ⟨envelope, -, -, outcome⟩ := outcome
  · rw [outcome] at failed
    cases failed
    exact ⟨rfl, iff_of_false nofun arrived⟩
  · rw [outcome] at failed
    cases failed
    exact ⟨rfl, iff_of_false nofun arrived⟩
  · rw [outcome] at failed
    obtain ⟨context, lasting⟩ := Envelope.context_of_result failed
    exact ⟨context, iff_of_false (by simp [lasting]) arrived⟩

theorem final?_of_bodied (inside : 200 ≤ status.code ∧ status.code ≤ 299)
    (bodied : status.code ≠ 204) :
    (response status body).final? = some (status, body) := by
  refine final?_eq_some_iff.mpr ⟨body, rfl, .inr inside.1, ?_⟩
  rw [if_neg]
  omega

theorem readBytes?_empty :
    (JsonForm.readBytes? .empty : Option Envelope) = none := by
  decide +kernel

theorem result_eq_ok_iff_response {value : α} :
    reply.result method = .ok value ↔
      ∃ status body, ∃ envelope : Envelope, reply = .response status body ∧
        (200 ≤ status.code ∧ status.code ≤ 299) ∧ status.code ≠ 204 ∧
        JsonForm.readBytes? body = some envelope ∧
        Spells envelope.status "success" ∧
        JsonForm.ofJson? envelope.data = some value := by
  rw [result_eq_ok_iff]
  constructor
  · rintro ⟨status, _, envelope, final, inside, read, answer⟩
    obtain ⟨body, rfl, -, rfl⟩ := final?_eq_some_iff.mp final
    by_cases bodied : status.code = 204
    · rw [if_pos (.inl bodied), readBytes?_empty] at read
      cases read
    · rw [if_neg (by omega)] at read
      exact ⟨status, body, envelope, rfl, inside, bodied, read, answer⟩
  · rintro ⟨status, body, envelope, rfl, inside, bodied, read, answer⟩
    exact ⟨status, body, envelope, final?_of_bodied inside bodied, inside, read,
      answer⟩

theorem decides (reply : BridgeReply) (method : String) :
    Decides form method reply
      (reply.result method : Except Gateway.Error α) where
  answered _ := result_eq_ok_iff_response
  refused status body same outside := by
    have final := final?_eq_some_iff.mpr ⟨body, same, by omega, rfl⟩
    exact ⟨_, result_of_refused final (by omega), rfl, rfl⟩
  garbled status body same inside garbled := by
    have final := final?_eq_some_iff.mpr ⟨body, same, .inr inside.1, rfl⟩
    refine ⟨_, result_of_garbled final inside ?_, rfl⟩
    split
    · exact readBytes?_empty
    · exact garbled.resolve_left (by omega)
  failed status body envelope same inside bodied read failed := by
    subst same
    refine ⟨_, (result_of_read (final?_of_bodied inside bodied) inside
      read).trans (Envelope.result_of_failed failed), rfl, ?_, ?_⟩
    · intro message given
      rw [Gateway.Error.remoteCall, Envelope.failure, given, Option.getD_some]
    · intro missing
      rw [Gateway.Error.remoteCall, Envelope.failure, missing, Option.getD_none]
  misfit status body envelope same inside bodied read success misfit := by
    subst same
    exact ⟨_, (result_of_read (final?_of_bodied inside bodied) inside
      read).trans (Envelope.result_of_undecodable success misfit), rfl⟩
  broken breaks := ⟨_, result_of_broken (final?_eq_none_iff.mpr breaks), rfl⟩
  named _ failed := (result_error failed).1
  retried _ failed := (result_error failed).2.trans final?_eq_none_iff

end Result

end BridgeReply

namespace BridgeClient

open BridgeReply (Decides)
open Envelope (Spells)

theorem kind_of_message {client : BridgeClient} {request : Request α}
    {error : Gateway.Error} (failed : client.message request = .error error) :
    error.kind = .configuration := by
  rw [message, BridgeConfig.methodUrl] at failed
  cases read : Url.read (String.ofList
      (client.config.base ++ '/' :: request.method.wireName.toList)) with
  | ok url =>
      rw [read] at failed
      cases failed
  | error fault =>
      rw [read] at failed
      cases failed
      rfl

/-- A call whose message cannot be made is not sent. What another one comes to
is decided by the reply to its message. -/
theorem classification (client : BridgeClient)
    (reply : BridgeMessage → BridgeReply) (request : Request α) :
    (∀ error, client.message request = .error error →
      client.call reply request = .error error ∧
        error.kind = .configuration) ∧
    ∀ message, client.message request = .ok message →
      Decides request.form request.method.wireName (reply message)
        (client.call reply request) := by
  constructor
  · intro error failed
    have unsent : client.call reply request = .error error := by
      rw [call, failed]
      rfl
    exact ⟨unsent, kind_of_message failed⟩
  · intro message made
    let _ := request.form
    have called : client.call reply request =
        (reply message).result request.method.wireName := by
      rw [call, made]
      rfl
    rw [called]
    exact BridgeReply.decides (reply message) request.method.wireName

def nearby : BridgeClient where
  config :=
    { endpoint :=
        { scheme := "http".toList
          authority := some { host := some (.ipv6 [0, 0, 0, 0, 0, 0, 0, 1]) }
          path := .segments [[]] }
      timeoutSeconds := 30 }

theorem nearby_sends : ∃ message, nearby.message .version = .ok message :=
  Except.exists_of_isOk (by decide +kernel)

theorem spells_success : Spells "Success" "success" :=
  (Envelope.lower_eq_iff_spells (by decide)).mp (by decide +kernel)

def enveloped (data : String) : BridgeReply :=
  .response ⟨200, by decide⟩
    ("\x7b\"status\":\"Success\",\"data\":" ++ data ++ "\x7d").toUTF8

theorem classification_answered :
    nearby.call (fun _ => enveloped "\"3.1\"") .version = .ok "3.1" ∧
      ∃ error,
        nearby.call (fun _ => enveloped "null") .version = .error error ∧
        error.kind = .serialization ∧
        error.context = some "get_gateway_version" := by
  obtain ⟨message, made⟩ := nearby_sends
  constructor
  · have known := (classification nearby (fun _ => enveloped "\"3.1\"")
      .version).2 message made
    exact (known.answered "3.1").mpr ⟨⟨200, by decide⟩, _,
      { status := "Success", data := .string "3.1" }, rfl, by decide,
      by decide, (JsonForm.readBytes?_toUTF8 _).trans (by decide +kernel),
      spells_success, by decide +kernel⟩
  · have known := (classification nearby (fun _ => enveloped "null")
      .version).2 message made
    obtain ⟨error, failed, kind⟩ := known.misfit ⟨200, by decide⟩ _
      { status := "Success" } rfl (by decide) (by decide)
      ((JsonForm.readBytes?_toUTF8 _).trans (by decide +kernel))
      spells_success (by decide +kernel)
    exact ⟨error, failed, kind, known.named error failed⟩

end BridgeClient

end Orchestration
