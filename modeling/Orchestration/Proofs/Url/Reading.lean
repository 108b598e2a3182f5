import Orchestration.Proofs.Url.Authority
import Orchestration.Proofs.Url.Path

namespace Orchestration.Url

open Text

/-! What reading a URL of the web can come to: URLs that are written and read
again without a change. -/

def webSchemes : List (List Char) := ["http".toList, "https".toList]

/-- What reading a URL of the web can come to. -/
structure Canonical (url : Url) : Prop where
  scheme : url.scheme ∈ webSchemes
  authority : ∃ authority, url.authority = some authority ∧
    StandingAuthority url.scheme authority
  path : ∃ names, url.path = .segments names ∧ SettledPath names
  query : ∀ query ∈ url.query, Clear specialQuerySet query
  fragment : ∀ fragment ∈ url.fragment, Clear fragmentSet fragment

theorem isSpecial_web : ∀ scheme ∈ webSchemes,
    isSpecial scheme = true ∧ scheme ≠ fileScheme := by
  decide +kernel

section Reading

variable {text : String} {url : Url}

theorem readTarget_web {scheme : List Char} (web : scheme ∈ webSchemes)
    (atEnd : Bool) (body : List Char) :
    readTarget scheme atEnd body =
      readAuthorityAndPath scheme atEnd (body.dropWhile (isSlash true)) := by
  obtain ⟨special, other⟩ := isSpecial_web scheme web
  rw [readTarget.eq_def, if_neg other, if_pos special]

theorem canonical_of_read (read : Url.read text = .ok url)
    (web : url.scheme ∈ webSchemes) : Canonical url := by
  rw [Url.read] at read
  split at read
  next => cases read
  next scheme rest cut =>
    obtain ⟨target, found, read⟩ := Except.bind_ok read
    cases read
    dsimp only at web
    obtain ⟨special, other⟩ := isSpecial_web scheme web
    rw [readTarget_web web, readAuthorityAndPath, special] at found
    obtain ⟨⟨authority, tail⟩, named, found⟩ := Except.bind_ok found
    cases found
    refine ⟨web, ⟨authority, rfl, standing_of_readAuthority special named⟩,
      settledPath_readPath _, ?_, ?_⟩
    · intro query member
      obtain ⟨written, -, rfl⟩ := Option.map_eq_some_iff.mp member
      rw [if_pos special]
      exact clear_encode (by decide) written
    · intro fragment member
      obtain ⟨written, -, rfl⟩ := Option.map_eq_some_iff.mp member
      exact clear_encode (by decide) written

end Reading

theorem clean_printed {text : List Char}
    (printed : ∀ c ∈ text, 0x20 < c.toNat) : clean text = text := by
  have whole {text : List Char} (printed : ∀ c ∈ text, 0x20 < c.toNat) :
      text.dropWhile (fun c => c.toNat ≤ 0x20) = text := by
    cases text with
    | nil => rfl
    | cons c rest =>
        have first := printed c List.mem_cons_self
        exact List.dropWhile_cons_of_neg (by simpa using first)
  have reversed := whole fun c member => printed c (List.mem_reverse.mp member)
  rw [clean, whole printed, reversed, List.reverse_reverse]
  refine List.filter_eq_self.mpr fun c member => ?_
  have code := printed c member
  have other (d : Char) (low : d.toNat ≤ 0x20) : c ≠ d := by
    rintro rfl
    omega
  simp [other '\t' (by decide), other '\n' (by decide),
    other '\r' (by decide)]

theorem webSchemes_letters : ∀ scheme ∈ webSchemes,
    scheme.all isSchemeChar = true ∧ scheme.map lowerAscii = scheme ∧
      scheme.head?.any isLetter = true ∧
      scheme.all (0x20 < ·.toNat) = true := by
  decide +kernel

theorem cutScheme_web {scheme : List Char} (web : scheme ∈ webSchemes)
    (rest : List Char) :
    cutScheme (scheme ++ ':' :: rest) = some (scheme, rest) := by
  obtain ⟨letters, small, first, -⟩ := webSchemes_letters scheme web
  have span : (scheme ++ ':' :: rest).span isSchemeChar =
      (scheme, ':' :: rest) := by
    rw [List.span_eq_takeWhile_dropWhile,
      List.takeWhile_append_of_pos (List.all_eq_true.mp letters),
      List.dropWhile_append_of_pos (List.all_eq_true.mp letters),
      List.takeWhile_cons_of_neg (by decide),
      List.dropWhile_cons_of_neg (by decide), List.append_nil]
  rw [cutScheme, span]
  cases scheme with
  | nil => cases first
  | cons c more =>
      rw [List.head?_cons, Option.any_some] at first
      simp only [first, small, if_true]

theorem cut_marked {separator : Char} {before : List Char}
    (free : separator ∉ before) (after : Option (List Char)) :
    cut separator (before ++ marked? separator after) = (before, after) := by
  cases after with
  | none => rw [marked?, List.append_nil, cut_whole free]
  | some text => exact cut_append free text

/-- What may stand before the query. -/
def Fronts (text : List Char) : Prop :=
  ∀ c ∈ text, 0x20 < c.toNat ∧ c ≠ '?' ∧ c ≠ '#'

theorem fronts_authority {scheme : List Char} {authority : Authority}
    (standing : StandingAuthority scheme authority) :
    Fronts authority.text := by
  intro c member
  obtain rfl | solid := standing.mem_text member
  · decide
  · exact ⟨solid.printed, solid.ne (by decide), solid.ne (by decide)⟩

theorem fronts_path {names : List (List Char)} (path : SettledPath names) :
    Fronts (Path.segments names).text := by
  intro c member
  obtain ⟨name, listed, within⟩ := List.mem_flatMap.mp member
  rcases List.mem_cons.mp within with rfl | within
  · decide
  · have clear := (path.settled name listed).clear
    refine ⟨clear.above (by decide) within, ?_, ?_⟩
    all_goals
      rintro rfl
      exact clear.notMem (by decide) within

theorem not_slash {scheme : List Char} {authority : Authority} {c : Char}
    (standing : StandingAuthority scheme authority)
    (member : c ∈ authority.text) : isSlash true c = false := by
  obtain rfl | solid := standing.mem_text member
  · rfl
  · exact isSlash_eq_false_iff.mpr
      ⟨solid.ne (by decide), solid.ne (by decide)⟩

theorem span_authority {scheme : List Char} {authority : Authority}
    {names : List (List Char)} (standing : StandingAuthority scheme authority)
    (path : SettledPath names) :
    (authority.text ++ (Path.segments names).text).span (!isSlash true ·) =
      (authority.text, (Path.segments names).text) := by
  obtain ⟨first, rest, rfl⟩ := List.exists_cons_of_ne_nil path.nonempty
  have solid : ∀ c ∈ authority.text, (!isSlash true c) = true := by
    intro c member
    rw [not_slash standing member]
    rfl
  rw [List.span_eq_takeWhile_dropWhile, List.takeWhile_append_of_pos solid,
    List.dropWhile_append_of_pos solid, Path.text, List.flatMap_cons,
    List.cons_append, List.takeWhile_cons_of_neg (by decide),
    List.dropWhile_cons_of_neg (by decide), List.append_nil]

theorem readAuthorityAndPath_text {scheme : List Char} {authority : Authority}
    {host : Host} {names : List (List Char)} (special : isSpecial scheme = true)
    (standing : StandingAuthority scheme authority)
    (hosted : authority.host = some host) (path : SettledPath names)
    (atEnd : Bool) :
    readAuthorityAndPath scheme atEnd
        (authority.text ++ (Path.segments names).text) =
      (Host.readSpecial host.text).map fun other =>
        ⟨some (authority.withHost other), .segments names⟩ := by
  rw [readAuthorityAndPath, special, span_authority standing path]
  dsimp only
  rw [standing.read_text special hosted]
  cases Host.readSpecial host.text with
  | error fault => rfl
  | ok other =>
      exact congrArg (fun path => Except.ok (Target.mk _ path))
        path.readPath_text

theorem dropWhile_authority {scheme : List Char} {authority : Authority}
    (standing : StandingAuthority scheme authority) (rest : List Char) :
    ('/' :: '/' :: (authority.text ++ rest)).dropWhile (isSlash true) =
      authority.text ++ rest := by
  obtain ⟨c, more, written⟩ := List.exists_cons_of_ne_nil standing.text_ne_nil
  have first := not_slash standing (c := c) (written ▸ List.mem_cons_self)
  rw [List.dropWhile_cons_of_pos rfl, List.dropWhile_cons_of_pos rfl, written,
    List.cons_append, List.dropWhile_cons_of_neg (Bool.eq_false_iff.mp first)]

def withHost (url : Url) (host : Host) : Url :=
  { url with authority := url.authority.map (·.withHost host) }

theorem map_encode {set : List Char} {text : Option (List Char)}
    (clear : ∀ letters ∈ text, Clear set letters) :
    text.map (encode set) = text := by
  cases text with
  | none => rfl
  | some letters => exact congrArg some (encode_clear (clear letters rfl))

theorem marked_above {set : List Char} {text : Option (List Char)} {mark : Char}
    (clear : ∀ letters ∈ text, Clear set letters) (blank : ' ' ∈ set)
    (above : 0x20 < mark.toNat) :
    ∀ c ∈ marked? mark text, 0x20 < c.toNat := by
  cases text with
  | none => exact nofun
  | some letters =>
      exact List.forall_mem_cons.mpr
        ⟨above, fun c member => (clear letters rfl).above blank member⟩

theorem cutTail_marked {body : List Char} {query : Option (List Char)}
    (fronts : Fronts body)
    (clear : ∀ letters ∈ query, Clear specialQuerySet letters)
    (fragment : Option (List Char)) :
    cutTail (body ++ marked? '?' query ++ marked? '#' fragment) =
      (body, query, fragment) := by
  have unmarked : '#' ∉ body ++ marked? '?' query := by
    intro member
    rcases List.mem_append.mp member with member | member
    · exact (fronts '#' member).2.2 rfl
    · cases query with
      | none => cases member
      | some letters =>
          rcases List.mem_cons.mp member with same | member
          · exact absurd same (by decide)
          · exact (clear letters rfl).notMem (by decide) member
  rw [cutTail, cut_marked unmarked]
  dsimp only
  rw [cut_marked fun member => (fronts '?' member).2.1 rfl]

namespace Canonical

variable {url : Url}

def bodyText (authority : Authority) (names : List (List Char)) : List Char :=
  '/' :: '/' :: (authority.text ++ (Path.segments names).text)

theorem fronts_bodyText {scheme : List Char} {authority : Authority}
    {names : List (List Char)} (standing : StandingAuthority scheme authority)
    (path : SettledPath names) : Fronts (bodyText authority names) := by
  refine List.forall_mem_cons.mpr ⟨by decide,
    List.forall_mem_cons.mpr ⟨by decide, fun c member => ?_⟩⟩
  rcases List.mem_append.mp member with member | member
  · exact fronts_authority standing c member
  · exact fronts_path path c member

theorem chars_eq {authority : Authority} {names : List (List Char)}
    (ownAuthority : url.authority = some authority)
    (ownPath : url.path = .segments names) :
    url.chars = url.scheme ++ ':' ::
      (bodyText authority names ++ marked? '?' url.query ++
        marked? '#' url.fragment) := by
  rw [Url.chars, ownAuthority, ownPath]
  simp [targetText, bodyText]

theorem above (canonical : Canonical url) :
    ∀ c ∈ url.chars, 0x20 < c.toNat := by
  obtain ⟨authority, ownAuthority, standing⟩ := canonical.authority
  obtain ⟨names, ownPath, path⟩ := canonical.path
  obtain ⟨-, -, -, scheme⟩ := webSchemes_letters _ canonical.scheme
  intro c member
  rw [chars_eq ownAuthority ownPath] at member
  rcases List.mem_append.mp member with member | member
  · exact of_decide_eq_true (List.all_eq_true.mp scheme c member)
  rcases List.mem_cons.mp member with rfl | member
  · decide
  rcases List.mem_append.mp member with member | member
  · rcases List.mem_append.mp member with member | member
    · exact (fronts_bodyText standing path c member).1
    · exact marked_above canonical.query (by decide) (by decide) c member
  · exact marked_above canonical.fragment (by decide) (by decide) c member

/-- A URL that was written is read as itself, if its host is. -/
theorem read_text (canonical : Canonical url) {authority : Authority}
    {host : Host} (ownAuthority : url.authority = some authority)
    (hosted : authority.host = some host) :
    Url.read url.text = (Host.readSpecial host.text).map url.withHost := by
  obtain ⟨_, same, standing⟩ := canonical.authority
  rw [ownAuthority] at same
  cases same
  obtain ⟨names, ownPath, path⟩ := canonical.path
  obtain ⟨special, -⟩ := isSpecial_web _ canonical.scheme
  have target (atEnd : Bool) :
      readTarget url.scheme atEnd (bodyText authority names) =
        (Host.readSpecial host.text).map fun other =>
          ⟨some (authority.withHost other), .segments names⟩ := by
    rw [readTarget_web canonical.scheme, bodyText, dropWhile_authority standing,
      readAuthorityAndPath_text special standing hosted path]
  rw [Url.read, Url.text, String.toList_ofList, clean_printed canonical.above,
    chars_eq ownAuthority ownPath, cutScheme_web canonical.scheme]
  dsimp only
  rw [cutTail_marked (fronts_bodyText standing path) canonical.query]
  dsimp only
  rw [target, special]
  cases Host.readSpecial host.text with
  | error fault => rfl
  | ok other =>
      simp only [Except.map, Except.bind, bind, if_true,
        map_encode canonical.query, map_encode canonical.fragment, withHost,
        ownAuthority, Option.map_some]
      rw [← ownPath]
      rfl

end Canonical

end Orchestration.Url
