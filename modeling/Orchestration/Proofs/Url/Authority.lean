import Orchestration.Url.Basic
import Orchestration.Proofs.Url.Host
import Orchestration.Proofs.Url.Percent

namespace Orchestration.Url

open Text

def borders : List Char := ['/', '\\', '?', '#', '@']

/-- A character that users, hosts and ports may be written with. -/
structure Solid (c : Char) : Prop where
  printed : 0x20 < c.toNat
  inner : c ∉ borders

section Solid

variable {c : Char}

theorem solid_of_allowed (allowed : Domain.isDenied c = false) : Solid c := by
  obtain ⟨printed, free⟩ := Domain.isDenied_eq_false_iff.mp allowed
  have denied : borders ⊆ Domain.marks := by decide
  exact ⟨printed.1, fun member => free (denied member)⟩

theorem solid_of_clear {text : List Char} (clear : Clear userSet text)
    (member : c ∈ text) : Solid c := by
  have encoded : borders ⊆ userSet := by decide
  exact ⟨clear.above (by decide) member,
    fun border => clear.notMem (encoded border) member⟩

theorem solid_of_isDigit (digit : isDigit c = true) : Solid c :=
  solid_of_allowed (allowed_hexDigit (isHexDigit_of_isDigit digit))

theorem Solid.ne (solid : Solid c) {border : Char} (listed : border ∈ borders) :
    c ≠ border := by
  rintro rfl
  exact solid.inner listed

end Solid

def userText (user password : List Char) : List Char :=
  user ++ if password.isEmpty then [] else ':' :: password

theorem userAndPassword_text {user password : List Char}
    (named : Clear userSet user) (secret : Clear userSet password) :
    userAndPassword (userText user password) = (user, password) := by
  have whole : ':' ∉ user := named.notMem (by decide)
  cases password with
  | nil =>
      rw [userText, List.isEmpty_nil, if_pos rfl, List.append_nil,
        userAndPassword, cut_whole whole]
      exact congrArg (·, []) (encode_clear named)
  | cons c rest =>
      rw [userText, List.isEmpty_cons, if_neg Bool.false_ne_true,
        userAndPassword, cut_append whole]
      exact congrArg₂ Prod.mk (encode_clear named) (encode_clear secret)

theorem cutUser_whole {text : List Char} (free : '@' ∉ text) :
    cutUser text = (none, text) := by
  rw [cutUser, takeWhile_reverse_whole free, List.reverse_reverse]
  exact if_neg (lt_irrefl _)

theorem cutUser_append {host : List Char} (free : '@' ∉ host)
    (user : List Char) :
    cutUser (user ++ '@' :: host) = (some user, host) := by
  have longer : host.length < (user ++ '@' :: host).length := by
    rw [List.length_append, List.length_cons]
    omega
  rw [cutUser, takeWhile_reverse_append free, List.reverse_reverse,
    if_pos longer, length_before, List.take_left]

theorem cutHost_append {inside : Bool} {text : List Char}
    (free : ∀ c ∈ text, c ≠ '[' ∧ c ≠ ']' ∧ (inside = false → c ≠ ':'))
    (rest : List Char) :
    cutHost inside (text ++ rest) =
      (text ++ (cutHost inside rest).1, (cutHost inside rest).2) := by
  induction text with
  | nil => rfl
  | cons c more induction =>
      obtain ⟨opening, closing, colon⟩ := free c List.mem_cons_self
      have outer : ¬ (c = ':' && !inside) = true := by
        intro both
        simp only [Bool.and_eq_true, decide_eq_true_iff,
          Bool.not_eq_true'] at both
        exact colon both.2 both.1
      rw [List.cons_append, cutHost, if_neg outer]
      simp only [if_neg opening, if_neg closing]
      rw [induction fun d among => free d (List.mem_cons_of_mem _ among)]
      rfl

theorem cutHost_text {host : Host} (standing : Standing host) {port : List Char}
    (marked : port = [] ∨ ∃ digits, port = ':' :: digits) :
    cutHost false (host.text ++ port) = (host.text, port) := by
  have stops : cutHost false port = ([], port) := by
    obtain rfl | ⟨digits, rfl⟩ := marked
    · rfl
    · rw [cutHost, if_pos (by decide)]
  have plain {text : List Char} (allowed : Domain.Allowed text) :
      cutHost false (text ++ port) = (text, port) := by
    rw [cutHost_append, stops, List.append_nil]
    intro c member
    have free := (Domain.isDenied_eq_false_iff.mp (allowed c member)).2
    refine ⟨?_, ?_, fun _ => ?_⟩
    all_goals
      rintro rfl
      exact free (by decide)
  cases standing with
  | name nonempty allowed word => exact plain allowed
  | @ipv4 address small => exact plain (plain_ipv4Text address).allowed
  | @ipv6 parts valid =>
      have inner : ∀ c ∈ Host.ipv6Text parts,
          c ≠ '[' ∧ c ≠ ']' ∧ (true = false → c ≠ ':') := by
        intro c member
        obtain rfl | digit := mem_ipv6Text member
        · decide
        · refine ⟨?_, ?_, nofun⟩
          all_goals
            rintro rfl
            exact absurd digit (by decide)
      rw [Host.text, List.append_assoc, List.append_assoc,
        List.singleton_append, List.singleton_append, cutHost,
        if_neg (by decide)]
      simp only [if_true]
      rw [cutHost_append inner, cutHost, if_neg (by decide)]
      simp [stops]

def portText : Option Nat → List Char
  | some number => ':' :: Nat.toDigits 10 number
  | none => []

/-- A number that a port of the scheme may have; its default is left out. -/
def StandingPort (scheme : List Char) (number : Nat) : Prop :=
  number < 65536 ∧ defaultPort? scheme ≠ some number

theorem readPort_text {scheme : List Char} {portNumber : Option Nat}
    (standing : ∀ number ∈ portNumber, StandingPort scheme number) :
    (cutPort (portText portNumber)).2 = [] ∧
      readPort scheme (cutPort (portText portNumber)).1 = .ok portNumber := by
  cases portNumber with
  | none => exact ⟨rfl, rfl⟩
  | some number =>
      have decimal := isDecimal_toDigits number
      have whole : (Nat.toDigits 10 number).span (· ≠ '\\') =
          (Nat.toDigits 10 number, []) := by
        have other : '\\' ∉ Nat.toDigits 10 number := fun member =>
          absurd (decimal.all _ member) (by decide)
        rw [List.span_eq_takeWhile_dropWhile,
          List.takeWhile_eq_self_iff.mpr (all_ne other),
          List.dropWhile_eq_nil_iff.mpr (all_ne other)]
      have value : valueOf (Nat.toDigits 10 number) = number :=
        (valueOf_eq_ofDigits _).trans decimal.value
      obtain ⟨small, distinct⟩ := standing number rfl
      rw [portText, cutPort, whole]
      refine ⟨rfl, ?_⟩
      rw [readPort, value, List.all_eq_true.mpr decimal.all]
      simp [small, distinct, decimal.nonempty]

theorem standing_of_readPort {scheme digits : List Char}
    {portNumber : Option Nat}
    (read : readPort scheme digits = .ok portNumber) :
    ∀ number ∈ portNumber, StandingPort scheme number := by
  rw [readPort] at read
  split at read
  next valid =>
    split at read
    next =>
      cases read
      exact nofun
    next other =>
      cases read
      intro number member
      cases member
      simp only [Bool.and_eq_true, decide_eq_true_iff, Bool.or_eq_true,
        not_or] at valid other
      exact ⟨valid.2, other.2⟩
  next => cases read

def Authority.withHost (authority : Authority) (host : Host) : Authority :=
  { authority with host := some host }

/-- What reading the authority of a known scheme can come to. -/
structure StandingAuthority (scheme : List Char) (authority : Authority) :
    Prop where
  user : Clear userSet authority.user
  password : Clear userSet authority.password
  host : ∃ host, authority.host = some host ∧ Standing host
  port : ∀ number ∈ authority.portNumber, StandingPort scheme number

theorem standing_of_readHost {text : List Char} {found : Option Host}
    (read : readHost true text = .ok found) :
    ∃ host, found = some host ∧ Standing host := by
  rw [readHost] at read
  split at read
  next => cases read
  next =>
    rw [if_pos rfl] at read
    cases result : Host.readSpecial text with
    | error fault =>
        rw [result] at read
        cases read
    | ok host =>
        rw [result] at read
        cases read
        exact ⟨host, rfl, standing_of_read result⟩

theorem standing_of_readAuthority {scheme text rest : List Char} {atEnd : Bool}
    {authority : Authority} (special : isSpecial scheme = true)
    (read : readAuthority scheme atEnd text = .ok (authority, rest)) :
    StandingAuthority scheme authority := by
  rw [readAuthority, special] at read
  dsimp only at read
  obtain ⟨host, hosted, read⟩ := Except.bind_ok read
  obtain ⟨there, rfl, standing⟩ := standing_of_readHost hosted
  simp only [Option.isNone_some, Bool.false_and, Bool.false_eq_true,
    if_false] at read
  obtain ⟨number, ported, read⟩ := Except.bind_ok read
  cases read
  exact ⟨clear_encode (by decide) _, clear_encode (by decide) _,
    ⟨there, rfl, standing⟩, standing_of_readPort ported⟩

theorem Standing.text_ne_nil {host : Host} (standing : Standing host) :
    host.text ≠ [] := by
  cases standing with
  | name nonempty allowed word => exact nonempty
  | ipv4 small => exact ipv4Text_ne_nil _
  | ipv6 valid => exact List.cons_ne_nil _ _

theorem readHost_text {host : Host} (standing : Standing host) :
    readHost true host.text = (Host.readSpecial host.text).map some := by
  rw [readHost, List.isEmpty_eq_false_iff.mpr standing.text_ne_nil,
    if_neg Bool.false_ne_true, if_pos rfl]

theorem portText_marked (portNumber : Option Nat) :
    portText portNumber = [] ∨
      ∃ digits, portText portNumber = ':' :: digits := by
  cases portNumber with
  | none => exact .inl rfl
  | some number => exact .inr ⟨_, rfl⟩

theorem solid_portText (portNumber : Option Nat) :
    ∀ c ∈ portText portNumber, Solid c := by
  cases portNumber with
  | none => exact nofun
  | some number =>
      intro c member
      rcases List.mem_cons.mp member with rfl | member
      · exact ⟨by decide, by decide⟩
      · exact solid_of_isDigit (isDigit_of_mem_toDigits member)

theorem Standing.solid {host : Host} (standing : Standing host) :
    ∀ c ∈ host.text, Solid c := by
  intro c member
  cases standing with
  | name nonempty allowed word => exact solid_of_allowed (allowed c member)
  | @ipv4 address small =>
      exact solid_of_allowed ((plain_ipv4Text address).allowed c member)
  | ipv6 valid =>
      rw [Host.text] at member
      simp only [List.singleton_append, List.mem_append, List.mem_cons,
        List.not_mem_nil, or_false] at member
      obtain (rfl | member) | rfl := member
      · exact ⟨by decide, by decide⟩
      · obtain rfl | digit := mem_ipv6Text member
        · exact ⟨by decide, by decide⟩
        · exact solid_of_allowed (allowed_hexDigit digit)
      · exact ⟨by decide, by decide⟩

namespace StandingAuthority

variable {scheme : List Char} {authority : Authority} {host : Host}

theorem text_eq (hosted : authority.host = some host) :
    authority.text =
      (if (userText authority.user authority.password).isEmpty then []
        else userText authority.user authority.password ++ ['@']) ++
        (host.text ++ portText authority.portNumber) := by
  rw [Authority.text, hosted]
  cases authority.portNumber <;> simp [userText, portText]

theorem solid_userText (standing : StandingAuthority scheme authority) :
    ∀ c ∈ userText authority.user authority.password, Solid c := by
  intro c member
  rw [userText] at member
  rcases List.mem_append.mp member with member | member
  · exact solid_of_clear standing.user member
  · split at member
    next => cases member
    next =>
      rcases List.mem_cons.mp member with rfl | member
      · exact ⟨by decide, by decide⟩
      · exact solid_of_clear standing.password member

theorem mem_text (standing : StandingAuthority scheme authority) {c : Char}
    (member : c ∈ authority.text) : c = '@' ∨ Solid c := by
  obtain ⟨host, hosted, standingHost⟩ := standing.host
  rw [text_eq hosted] at member
  rcases List.mem_append.mp member with member | member
  · split at member
    next => cases member
    next =>
      rcases List.mem_append.mp member with member | member
      · exact .inr (standing.solid_userText c member)
      · exact .inl (List.mem_singleton.mp member)
  · rcases List.mem_append.mp member with member | member
    · exact .inr (standingHost.solid c member)
    · exact .inr (solid_portText _ c member)

theorem text_ne_nil (standing : StandingAuthority scheme authority) :
    authority.text ≠ [] := by
  obtain ⟨host, hosted, standingHost⟩ := standing.host
  rw [text_eq hosted]
  exact List.append_ne_nil_of_right_ne_nil _
    (List.append_ne_nil_of_left_ne_nil standingHost.text_ne_nil _)

theorem cutUser_text (standing : StandingAuthority scheme authority)
    (hosted : authority.host = some host) (standingHost : Standing host) :
    ∃ user, cutUser authority.text =
        (user, host.text ++ portText authority.portNumber) ∧
      userAndPassword (user.getD []) =
        (authority.user, authority.password) := by
  have free : '@' ∉ host.text ++ portText authority.portNumber := by
    intro member
    have solid : Solid '@' := by
      rcases List.mem_append.mp member with member | member
      · exact standingHost.solid _ member
      · exact solid_portText _ _ member
    exact solid.inner (by decide)
  have named := userAndPassword_text standing.user standing.password
  rw [text_eq hosted]
  split
  next unnamed =>
    rw [List.isEmpty_iff] at unnamed
    rw [unnamed] at named
    exact ⟨none, cutUser_whole free, named⟩
  next =>
    rw [List.append_assoc, List.singleton_append]
    exact ⟨_, cutUser_append free _, named⟩

theorem read_text (special : isSpecial scheme = true)
    (standing : StandingAuthority scheme authority)
    (hosted : authority.host = some host) (atEnd : Bool) :
    readAuthority scheme atEnd authority.text =
      (Host.readSpecial host.text).map fun other =>
        (authority.withHost other, []) := by
  obtain ⟨_, same, standingHost⟩ := standing.host
  rw [hosted] at same
  cases same
  obtain ⟨user, cut, named⟩ := standing.cutUser_text hosted standingHost
  obtain ⟨whole, ported⟩ := readPort_text standing.port
  rw [readAuthority, special, cut]
  dsimp only
  rw [named, cutHost_text standingHost (portText_marked _)]
  dsimp only
  rw [readHost_text standingHost]
  cases Host.readSpecial host.text with
  | error fault => rfl
  | ok other =>
      simp only [Except.map, Except.bind, bind, Option.isNone_some,
        Bool.false_and, Bool.false_eq_true, if_false, ported, whole]
      rfl

end StandingAuthority

end Orchestration.Url
