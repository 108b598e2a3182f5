import Orchestration.Proofs.Task.Statement
import Orchestration.Proofs.Url.Address
import Orchestration.Proofs.Url.Domain

namespace Orchestration.Url

open Text

/-- What reading a host can come to. -/
inductive Standing : Host → Prop where
  | name (nonempty : letters ≠ []) (allowed : Domain.Allowed letters)
      (word : endsInNumber letters = false) : Standing (.name letters)
  | ipv4 (small : address < 256 ^ (4 : Nat)) : Standing (.ipv4 address)
  | ipv6 (valid : IsIpv6 parts) : Standing (.ipv6 parts)

theorem standing_of_bracketed {text : List Char} {host : Host}
    (read : bracketed text = .ok host) : Standing host := by
  rw [bracketed] at read
  split at read
  next parts _ address =>
    cases read
    exact .ipv6 (isIpv6_of_read address)
  next => cases read

theorem standing_of_read {text : List Char} {host : Host}
    (read : Host.readSpecial text = .ok host) : Standing host := by
  rw [Host.readSpecial.eq_def] at read
  split at read
  next => exact standing_of_bracketed read
  next =>
    split at read
    next => cases read
    next domain found =>
      obtain ⟨decoded, -, found⟩ := Option.bind_eq_some_iff.mp found
      split at read
      next => cases read
      next some =>
        split at read
        next =>
          split at read
          next address joined =>
            cases read
            obtain ⟨numbers, -, joined⟩ := Option.bind_eq_some_iff.mp joined
            exact .ipv4 (joinNumbers_lt joined)
          next => cases read
        next word =>
          cases read
          exact .name (by simpa using some) (Domain.allowed_ascii found)
            (Bool.eq_false_iff.mpr word)

section Digits

variable {c : Char}

theorem isHexDigit_of_isDigit (digit : isDigit c = true) :
    isHexDigit c = true := by
  rw [isHexDigit, digit]
  rfl

theorem allowed_hexDigit (digit : isHexDigit c = true) :
    Domain.isDenied c = false := by
  have bounds := isHexDigit_iff.mp digit
  have none : Domain.marks.all (!isHexDigit ·) = true := by decide
  refine Domain.isDenied_eq_false_iff.mpr
    ⟨⟨by omega, by omega⟩, fun member => ?_⟩
  have other := List.all_eq_true.mp none c member
  rw [digit] at other
  cases other

theorem mem_ipv4Text {address : Nat} (member : c ∈ Host.ipv4Text address) :
    c = '.' ∨ isDigit c = true := by
  rw [ipv4Text_eq] at member
  obtain same | ⟨part, listed, within⟩ := mem_intercalate member
  · exact .inl same
  · obtain ⟨byte, -, rfl⟩ := List.mem_map.mp listed
    exact .inr (isDigit_of_mem_toDigits within)

theorem mem_ipv6Text {parts : List Nat} (member : c ∈ Host.ipv6Text parts) :
    c = ':' ∨ isHexDigit c = true := by
  have within {parts : List Nat} (member : c ∈ Host.hexPieces parts) :
      c = ':' ∨ isHexDigit c = true := by
    obtain same | ⟨part, listed, within⟩ := mem_intercalate member
    · exact .inl same
    · obtain ⟨piece, -, rfl⟩ := List.mem_map.mp listed
      exact .inr (isHexDigit_of_mem_toDigits c within)
  rw [Host.ipv6Text] at member
  dsimp only at member
  split at member
  next => exact within member
  next =>
    rcases List.mem_append.mp member with member | member
    · rcases List.mem_append.mp member with member | member
      · exact within member
      · exact .inl (by simpa using member)
    · exact within member

theorem plain_ipv4Text (address : Nat) :
    Domain.Plain (Host.ipv4Text address) where
  ascii c member := by
    obtain rfl | digit := mem_ipv4Text member
    · decide
    · have bounds := isDigit_iff.mp digit
      omega
  allowed c member := by
    obtain rfl | digit := mem_ipv4Text member
    · decide
    · exact allowed_hexDigit (isHexDigit_of_isDigit digit)
  folded c member := by
    rw [← Char.toNat_inj, toNat_lowerAscii, if_neg]
    obtain rfl | digit := mem_ipv4Text member
    · decide
    · have bounds := isDigit_iff.mp digit
      omega
  unmarked label listed marked := by
    rw [splitOn_ipv4Text] at listed
    obtain ⟨byte, -, rfl⟩ := List.mem_map.mp listed
    have first := marked.subset (List.mem_cons_self : 'x' ∈ Domain.mark)
    exact absurd (isDigit_of_mem_toDigits first) (by decide)

end Digits

section Again

variable {text letters : List Char}

theorem decode?_allowed (allowed : Domain.Allowed text) :
    decode? text = some text := by
  have clear : text.contains '%' = false := by
    rw [List.contains_eq_mem, decide_eq_false_iff_not]
    exact fun member => absurd (allowed '%' member) (by decide)
  rw [decode?, clear]
  rfl

/-- A name that stands for itself is an address or a host. -/
theorem readSpecial_again (nonempty : text ≠ [])
    (allowed : Domain.Allowed text) (again : Domain.ascii? text = some text) :
    Host.readSpecial text =
      if endsInNumber text then
        match ipv4? text with
        | some address => .ok (.ipv4 address)
        | none => .error .invalidIpv4
      else .ok (.name text) := by
  have some : text.isEmpty = false := List.isEmpty_eq_false_iff.mpr nonempty
  rw [Host.readSpecial.eq_def]
  split
  next => exact absurd (allowed '[' List.mem_cons_self) (by decide)
  next =>
    rw [decode?_allowed allowed, Option.bind_some, again]
    dsimp only
    rw [some]
    exact if_neg Bool.false_ne_true

theorem ascii?_of_readSpecial (allowed : Domain.Allowed text)
    (read : Host.readSpecial text = .ok (.name letters)) :
    Domain.ascii? text = some letters := by
  rw [Host.readSpecial.eq_def] at read
  split at read
  next => exact absurd (allowed '[' List.mem_cons_self) (by decide)
  next =>
    rw [decode?_allowed allowed, Option.bind_some] at read
    split at read
    next => cases read
    next domain found =>
      split at read
      next => cases read
      next =>
        split at read
        next => split at read <;> cases read
        next =>
          cases read
          exact found

end Again

/-- A host that is read as itself. -/
def Host.Stands (host : Host) : Prop := Host.readSpecial host.text = .ok host

theorem ipv4Text_ne_nil (address : Nat) : Host.ipv4Text address ≠ [] := by
  intro empty
  have parts := splitOn_ipv4Text address
  rw [empty] at parts
  cases congrArg List.length parts

/-- Addresses are read as themselves, and so are all names but those with
encoded labels that are not. -/
theorem Standing.stands_iff {host : Host} (standing : Standing host) :
    host.Stands ↔ ∀ letters, host = .name letters →
      ¬ Domain.Plain letters → Domain.ascii? letters = some letters := by
  rw [Host.Stands]
  cases standing with
  | @name letters nonempty allowed word =>
      constructor
      · rintro read _ ⟨⟩ -
        exact ascii?_of_readSpecial allowed read
      · intro again
        have whole : Domain.ascii? letters = some letters := by
          by_cases plain : Domain.Plain letters
          · exact plain.ascii?_eq
          · exact again letters rfl plain
        rw [Host.text, readSpecial_again nonempty allowed whole, word]
        rfl
  | @ipv4 address small =>
      refine iff_of_true ?_ nofun
      have plain := plain_ipv4Text address
      rw [Host.text, readSpecial_again (ipv4Text_ne_nil address) plain.allowed
        plain.ascii?_eq, endsInNumber_ipv4Text, ipv4?_ipv4Text small]
      rfl
  | @ipv6 parts valid =>
      refine iff_of_true ?_ nofun
      rw [Host.text, List.singleton_append, List.cons_append, Host.readSpecial,
        bracketed, List.getLast?_concat, List.dropLast_concat, valid.read_text]
      rfl

end Orchestration.Url
