import Mathlib.Data.List.TakeWhile
import Orchestration.Url.Host
import Orchestration.Proofs.Except
import Orchestration.Proofs.Number.Numeral
import Orchestration.Proofs.Text.Split

namespace Orchestration.Url

open Text

def bytesOf (address : Nat) : List Nat :=
  [address / 256 ^ (3 : Nat) % 256, address / 256 ^ (2 : Nat) % 256,
    address / 256 % 256, address % 256]

theorem bytesOf_lt {address byte : Nat} (member : byte ∈ bytesOf address) :
    byte < 256 := by
  simp only [bytesOf, List.mem_cons, List.not_mem_nil, or_false] at member
  rcases member with rfl | rfl | rfl | rfl <;> exact Nat.mod_lt _ (by decide)

theorem joinNumbers_lt {numbers : List Nat} {room address : Nat}
    (joined : joinNumbers numbers room = some address) :
    address < 256 ^ room := by
  fun_induction joinNumbers numbers room generalizing address with
  | case1 => cases joined
  | case2 last room small =>
      cases joined
      exact small
  | case3 => cases joined
  | case4 number rest room more fits induction =>
      obtain ⟨tail, rejoined, rfl⟩ := Option.map_eq_some_iff.mp joined
      have small := induction rejoined
      calc number * 256 ^ (room - 1) + tail
          < (number + 1) * 256 ^ (room - 1) := by
            rw [Nat.succ_mul]
            exact Nat.add_lt_add_left small _
        _ ≤ 256 * 256 ^ (room - 1) := Nat.mul_le_mul_right _ fits.1
        _ = 256 ^ room := by
            rw [← Nat.pow_succ', Nat.succ_eq_add_one,
              Nat.sub_add_cancel (Nat.one_le_of_lt fits.2)]
  | case5 => cases joined

theorem joinNumbers_bytesOf {address : Nat}
    (small : address < 256 ^ (4 : Nat)) :
    joinNumbers (bytesOf address) 4 = some address := by
  have low (value : Nat) : value % 256 < 256 := Nat.mod_lt _ (by decide)
  rw [bytesOf, joinNumbers, if_pos ⟨low _, by decide⟩, joinNumbers,
    if_pos ⟨low _, by decide⟩, joinNumbers, if_pos ⟨low _, by decide⟩,
    joinNumbers, if_pos (low _)]
  · simp only [Option.map_some, Option.some.injEq]
    omega
  all_goals exact nofun

theorem addressNumber?_decimal : ∀ byte < 256,
    addressNumber? (Nat.toDigits 10 byte) = some byte := by
  decide +kernel

theorem ipv4Text_eq (address : Nat) :
    Host.ipv4Text address =
      ['.'].intercalate ((bytesOf address).map (Nat.toDigits 10)) := rfl

theorem isDigit_of_mem_toDigits {value : Nat} {c : Char}
    (member : c ∈ Nat.toDigits 10 value) : isDigit c = true :=
  (isDecimal_toDigits value).all c member

theorem splitOn_ipv4Text (address : Nat) :
    (Host.ipv4Text address).splitOn '.' =
      (bytesOf address).map (Nat.toDigits 10) := by
  rw [ipv4Text_eq]
  refine List.splitOn_intercalate '.' ?_ (List.cons_ne_nil _ _)
  intro part listed point
  obtain ⟨byte, -, rfl⟩ := List.mem_map.mp listed
  exact absurd (isDigit_of_mem_toDigits point) (by decide)

theorem addressParts_ipv4Text (address : Nat) :
    addressParts (Host.ipv4Text address) =
      (bytesOf address).map (Nat.toDigits 10) := by
  rw [addressParts, pieces_eq_splitOn, splitOn_ipv4Text]
  refine if_neg ?_
  intro empty
  exact Nat.toDigits_ne_nil (Option.some.inj empty)

theorem endsInNumber_ipv4Text (address : Nat) :
    endsInNumber (Host.ipv4Text address) = true := by
  have digits : (Nat.toDigits 10 (address % 256)).all isDigit = true :=
    List.all_eq_true.mpr fun c member => isDigit_of_mem_toDigits member
  have last : ((bytesOf address).map (Nat.toDigits 10)).getLast? =
      some (Nat.toDigits 10 (address % 256)) := rfl
  rw [endsInNumber, addressParts_ipv4Text, last]
  simp [digits, Nat.toDigits_ne_nil]

theorem ipv4?_ipv4Text {address : Nat} (small : address < 256 ^ (4 : Nat)) :
    ipv4? (Host.ipv4Text address) = some address := by
  have numbers : ((bytesOf address).map (Nat.toDigits 10)).mapM addressNumber? =
      some (bytesOf address) := by
    rw [mapM_eq_some_iff, List.forall₂_map_left_iff, List.forall₂_same]
    exact fun byte member => addressNumber?_decimal byte (bytesOf_lt member)
  rw [ipv4?, addressParts_ipv4Text, numbers, Option.bind_some,
    joinNumbers_bytesOf small]

theorem hexValue_digitChar :
    ∀ value < 16, hexValue value.digitChar = value := by
  decide

theorem isHexDigit_digitChar :
    ∀ value < 16, isHexDigit value.digitChar = true := by
  decide

theorem hexValueOf_concat (digits : List Char) (c : Char) :
    hexValueOf (digits ++ [c]) = 16 * hexValueOf digits + hexValue c := by
  rw [hexValueOf, List.foldl_append]
  rfl

theorem hexValueOf_toDigits (value : Nat) :
    hexValueOf (Nat.toDigits 16 value) = value := by
  induction value using Nat.strong_induction_on with | h value smaller =>
  rw [Nat.toDigits_eq_if (by decide)]
  split
  next small => exact (Nat.zero_add _).trans (hexValue_digitChar value small)
  next large =>
    rw [hexValueOf_concat, smaller _ (by omega),
      hexValue_digitChar _ (Nat.mod_lt _ (by decide)), Nat.div_add_mod]

theorem isHexDigit_of_mem_toDigits {value : Nat} :
    ∀ c ∈ Nat.toDigits 16 value, isHexDigit c = true := by
  induction value using Nat.strong_induction_on with | h value smaller =>
  rw [Nat.toDigits_eq_if (by decide)]
  split
  next small =>
    exact List.forall_mem_singleton.mpr (isHexDigit_digitChar value small)
  next large =>
    intro c member
    rcases List.mem_append.mp member with member | member
    · exact smaller _ (by omega) c member
    · rw [List.mem_singleton.mp member]
      exact isHexDigit_digitChar _ (Nat.mod_lt _ (by decide))

theorem hexPiece?_toDigits {piece : Nat} (small : piece < 65536) :
    hexPiece? (Nat.toDigits 16 piece) = some piece := by
  have short : (Nat.toDigits 16 piece).length ≤ 4 :=
    (Nat.length_toDigits_le_iff (by decide) (by decide)).mpr small
  rw [hexPiece?, if_pos ⟨Nat.toDigits_ne_nil, short,
    List.all_eq_true.mpr isHexDigit_of_mem_toDigits⟩, hexValueOf_toDigits]

theorem colon_notMem_toDigits (piece : Nat) : ':' ∉ Nat.toDigits 16 piece :=
  fun member => absurd (isHexDigit_of_mem_toDigits _ member) (by decide)

section Pieces

variable {pieces : List Nat} {dotted : Bool}

theorem pieceList?_toDigits (small : ∀ piece ∈ pieces, piece < 65536) :
    pieceList? dotted (pieces.map (Nat.toDigits 16)) = some pieces := by
  induction pieces with
  | nil => rfl
  | cons piece rest induction =>
      have first := hexPiece?_toDigits (small piece List.mem_cons_self)
      have others := induction fun other among =>
        small other (List.mem_cons_of_mem _ among)
      cases rest with
      | nil => simp [pieceList?, first]
      | cons next more =>
          rw [List.map_cons] at others
          simp only [List.map_cons, pieceList?, first, others]

theorem hexPieces_cons_cons (first second : Nat) :
    Host.hexPieces (first :: second :: pieces) =
      Nat.toDigits 16 first ++ ':' :: Host.hexPieces (second :: pieces) := by
  rw [Host.hexPieces, List.map_cons, List.map_cons, List.intercalate_cons_cons,
    List.append_assoc]
  rfl

theorem hexPieces_singleton (piece : Nat) :
    Host.hexPieces [piece] = Nat.toDigits 16 piece := by
  rw [Host.hexPieces, List.map_singleton, List.intercalate_singleton]

theorem hexPieces_cons (piece : Nat) (pieces : List Nat) : ∃ c rest,
    Host.hexPieces (piece :: pieces) = c :: rest ∧ c ≠ ':' := by
  obtain ⟨c, rest, digits⟩ :=
    List.exists_cons_of_ne_nil (Nat.toDigits_ne_nil (n := piece) (b := 16))
  have digit : c ≠ ':' := by
    rintro rfl
    exact colon_notMem_toDigits piece (digits ▸ List.mem_cons_self)
  cases pieces with
  | nil => exact ⟨c, rest, (hexPieces_singleton piece).trans digits, digit⟩
  | cons next more =>
      rw [hexPieces_cons_cons, digits]
      exact ⟨c, _, rfl, digit⟩

theorem hexPieces_eq_nil_iff : Host.hexPieces pieces = [] ↔ pieces = [] := by
  cases pieces with
  | nil => exact iff_of_true rfl rfl
  | cons piece rest =>
      obtain ⟨c, more, written, -⟩ := hexPieces_cons piece rest
      rw [written]
      exact iff_of_false (List.cons_ne_nil _ _) (List.cons_ne_nil _ _)

theorem colonPieces?_hexPieces (small : ∀ piece ∈ pieces, piece < 65536) :
    colonPieces? dotted (Host.hexPieces pieces) = some pieces := by
  rw [colonPieces?]
  split
  next empty =>
    rw [List.isEmpty_iff, hexPieces_eq_nil_iff] at empty
    rw [empty]
  next some =>
    rw [List.isEmpty_iff, hexPieces_eq_nil_iff] at some
    rw [pieces_eq_splitOn, Host.hexPieces,
      List.splitOn_intercalate ':' ?_ (by simpa using some)]
    · exact pieceList?_toDigits small
    · intro part listed
      obtain ⟨piece, -, rfl⟩ := List.mem_map.mp listed
      exact colon_notMem_toDigits piece

theorem cutColons_append {text : List Char} (solid : ':' ∉ text)
    (rest : List Char) :
    cutColons (text ++ rest) =
      (cutColons rest).map fun (head, tail) => (text ++ head, tail) := by
  induction text with
  | nil => simp
  | cons c more induction =>
      have other : c ≠ ':' := fun same => solid (same ▸ List.mem_cons_self)
      have step := induction fun member => solid (List.mem_cons_of_mem c member)
      rw [List.cons_append, cutColons, step]
      · simp [Function.comp_def]
      · rintro _ rfl
        exact absurd rfl other

theorem cutColons_single {c : Char} (other : c ≠ ':') (rest : List Char) :
    cutColons (':' :: c :: rest) =
      (cutColons (c :: rest)).map fun (head, tail) => (':' :: head, tail) := by
  rw [cutColons]
  rintro more - ⟨⟩
  exact other rfl

theorem cutColons_hexPieces (pieces : List Nat) (rest : List Char) :
    cutColons (Host.hexPieces pieces ++ rest) =
      (cutColons rest).map fun (head, tail) =>
        (Host.hexPieces pieces ++ head, tail) := by
  induction pieces with
  | nil => simp [Host.hexPieces, List.intercalate]
  | cons piece more induction =>
      cases more with
      | nil =>
          rw [hexPieces_singleton]
          exact cutColons_append (colon_notMem_toDigits piece) rest
      | cons next others =>
          obtain ⟨c, tail, written, digit⟩ := hexPieces_cons next others
          rw [hexPieces_cons_cons, List.append_assoc,
            cutColons_append (colon_notMem_toDigits piece), List.cons_append,
            written, List.cons_append, cutColons_single digit,
            ← List.cons_append, ← written, induction]
          simp [Function.comp_def]

end Pieces

theorem leadingZeros_split (pieces : List Nat) : ∃ after,
    pieces = List.replicate (Host.leadingZeros pieces) 0 ++ after := by
  have zeros : pieces.takeWhile (· = 0) =
      List.replicate (Host.leadingZeros pieces) 0 :=
    List.eq_replicate_of_mem fun piece member => by
      simpa using List.mem_takeWhile_imp member
  refine ⟨pieces.dropWhile (· = 0), ?_⟩
  rw [← zeros]
  exact List.takeWhile_append_dropWhile.symm

theorem longestZeros_split (pieces : List Nat) : ∃ before after,
    pieces = before ++ List.replicate (Host.longestZeros pieces).2 0 ++ after ∧
      before.length = (Host.longestZeros pieces).1 := by
  induction pieces with
  | nil => exact ⟨[], [], rfl, rfl⟩
  | cons piece rest induction =>
      obtain ⟨before, after, split, place⟩ := induction
      obtain ⟨tail, here⟩ := leadingZeros_split (piece :: rest)
      rw [Host.longestZeros]
      dsimp only
      split
      next => exact ⟨[], tail, here, rfl⟩
      next =>
        refine ⟨piece :: before, after, ?_, congrArg (· + 1) place⟩
        rw [List.cons_append, List.cons_append, ← split]

/-- Eight pieces of sixteen bits. -/
structure IsIpv6 (pieces : List Nat) : Prop where
  length : pieces.length = 8
  small : ∀ piece ∈ pieces, piece < 65536

theorem IsIpv6.read_text {pieces : List Nat} (address : IsIpv6 pieces) :
    ipv6? (Host.ipv6Text pieces) = some pieces := by
  obtain ⟨before, after, split, place⟩ := longestZeros_split pieces
  rw [Host.ipv6Text]
  dsimp only
  generalize Host.longestZeros pieces = run at split place
  obtain ⟨start, count⟩ := run
  dsimp only at split place ⊢
  split
  next few =>
    have uncut : cutColons (Host.hexPieces pieces) = none := by
      simpa [cutColons] using cutColons_hexPieces pieces []
    rw [ipv6?, uncut]
    simp [colonPieces?_hexPieces address.small, address.length]
  next many =>
    have head : pieces.take start = before := by
      rw [split, ← place, List.append_assoc, List.take_left]
    have tail : pieces.drop (start + count) = after := by
      rw [split, ← place]
      exact List.drop_left' (by simp)
    have cut : cutColons (Host.hexPieces before ++ [':', ':'] ++
        Host.hexPieces after) =
        some (Host.hexPieces before, Host.hexPieces after) := by
      rw [List.append_assoc, cutColons_hexPieces]
      simp [cutColons]
    have length := address.length
    have small := address.small
    rw [split] at length small
    simp only [List.length_append, List.length_replicate] at length
    have headSmall : ∀ piece ∈ before, piece < 65536 := fun piece member =>
      small piece (by simp [member])
    have tailSmall : ∀ piece ∈ after, piece < 65536 := fun piece member =>
      small piece (by simp [member])
    have zeros : 8 - before.length - after.length = count := by omega
    rw [head, tail, ipv6?, cut]
    simp only [colonPieces?_hexPieces headSmall,
      colonPieces?_hexPieces tailSmall]
    rw [if_pos (by omega), zeros, ← split]

theorem isHexDigit_iff {c : Char} :
    isHexDigit c = true ↔ (48 ≤ c.toNat ∧ c.toNat ≤ 57) ∨
      (97 ≤ c.toNat ∧ c.toNat ≤ 102) ∨ (65 ≤ c.toNat ∧ c.toNat ≤ 70) := by
  rw [isHexDigit, Bool.or_eq_true, Bool.or_eq_true, isDigit_iff, or_assoc,
    decide_and_le_iff, decide_and_le_iff]
  rfl

theorem hexValue_lt {c : Char} (digit : isHexDigit c = true) :
    hexValue c < 16 := by
  have zero : '0'.toNat = 48 := rfl
  have small : 'a'.toNat = 97 ∧ 'f'.toNat = 102 := ⟨rfl, rfl⟩
  have capital : 'A'.toNat = 65 := rfl
  rw [isHexDigit_iff] at digit
  simp only [hexValue, digitValue, isDigit_iff, decide_and_le_iff]
  split_ifs <;> omega

theorem hexValueOf_lt {digits : List Char}
    (all : ∀ c ∈ digits, isHexDigit c = true) :
    hexValueOf digits < 16 ^ digits.length := by
  induction digits using List.reverseRecOn with
  | nil => decide
  | append_singleton digits c induction =>
      have before := induction fun d among =>
        all d (List.mem_append_left _ among)
      have last := hexValue_lt
        (all c (List.mem_append_right _ List.mem_cons_self))
      rw [hexValueOf_concat, List.length_append, List.length_singleton,
        Nat.pow_succ]
      omega

theorem hexPiece?_lt {text : List Char} {piece : Nat}
    (read : hexPiece? text = some piece) : piece < 65536 := by
  rw [hexPiece?] at read
  split at read
  next valid =>
    obtain ⟨-, short, digits⟩ := valid
    cases read
    exact (hexValueOf_lt (List.all_eq_true.mp digits)).trans_le
      (Nat.pow_le_pow_right (by decide) short)
  next => cases read

theorem decimalByte?_lt {text : List Char} {byte : Nat}
    (read : decimalByte? text = some byte) : byte < 256 := by
  rw [decimalByte?] at read
  split at read
  next valid =>
    cases read
    exact valid.2.2.2
  next => cases read

theorem dottedPieces?_lt {text : List Char} {found : List Nat}
    (read : dottedPieces? text = some found) :
    ∀ piece ∈ found, piece < 65536 := by
  rw [dottedPieces?] at read
  split at read
  next a b c d bytes =>
    cases read
    have low : ∀ byte ∈ [a, b, c, d], byte < 256 := fun byte member =>
      have ⟨_, _, part⟩ :=
        exists_of_forall₂ (mapM_eq_some_iff.mp bytes).flip member
      decimalByte?_lt part
    simp only [List.forall_mem_cons] at low
    obtain ⟨first, second, third, fourth, -⟩ := low
    refine List.forall_mem_cons.mpr ⟨by omega, ?_⟩
    exact List.forall_mem_singleton.mpr (by omega)
  next => cases read

theorem pieceList?_lt {dotted : Bool} {texts : List (List Char)}
    {found : List Nat} (read : pieceList? dotted texts = some found) :
    ∀ piece ∈ found, piece < 65536 := by
  fun_induction pieceList? dotted texts generalizing found with
  | case1 =>
      cases read
      exact nofun
  | case2 last piece hex =>
      cases read
      exact List.forall_mem_singleton.mpr (hexPiece?_lt hex)
  | case3 => exact dottedPieces?_lt read
  | case4 => cases read
  | case5 text rest more piece others rested hex induction =>
      cases read
      exact List.forall_mem_cons.mpr ⟨hexPiece?_lt hex, induction rested⟩
  | case6 => cases read

theorem colonPieces?_lt {dotted : Bool} {text : List Char} {found : List Nat}
    (read : colonPieces? dotted text = some found) :
    ∀ piece ∈ found, piece < 65536 := by
  rw [colonPieces?] at read
  split at read
  next =>
    cases read
    exact nofun
  next => exact pieceList?_lt read

theorem isIpv6_of_read {text : List Char} {pieces : List Nat}
    (read : ipv6? text = some pieces) : IsIpv6 pieces := by
  rw [ipv6?] at read
  split at read
  next =>
    obtain ⟨whole, length⟩ := Option.filter_eq_some_iff.mp read
    exact ⟨beq_iff_eq.mp length, colonPieces?_lt whole⟩
  next head tail cut =>
    split at read
    next front back first last =>
      split at read
      next room =>
        cases read
        constructor
        · simp only [List.length_append, List.length_replicate]
          omega
        · intro piece member
          rcases List.mem_append.mp member with member | member
          · rcases List.mem_append.mp member with member | member
            · exact colonPieces?_lt first piece member
            · rw [List.eq_of_mem_replicate member]
              decide
          · exact colonPieces?_lt last piece member
      next => cases read
    next => cases read

end Orchestration.Url
