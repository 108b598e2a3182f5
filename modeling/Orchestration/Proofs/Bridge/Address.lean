import Orchestration.Bridge.Config
import Orchestration.Proofs.Url.Reading

namespace Orchestration

open Text

/-! Where the methods of a gateway are called: at the address of the bridge with
the name of the method behind it. The name stands in the path, if the address
ends with one, but behind the query or the fragment otherwise. -/

namespace Url

def trimSlashes (text : List Char) : List Char := text.rdropWhile (· = '/')

theorem trimSlashes_append_cons {c : Char} (other : c ≠ '/')
    (before after : List Char) :
    trimSlashes (before ++ c :: after) = before ++ c :: trimSlashes after := by
  induction after using List.reverseRecOn with
  | nil => exact List.rdropWhile_concat_neg _ _ _ (by simpa using other)
  | append_singleton init last induction =>
      rw [← List.cons_append, ← List.append_assoc]
      by_cases slash : last = '/'
      · rw [trimSlashes, trimSlashes,
          List.rdropWhile_concat_pos _ _ _ (by simpa using slash),
          List.rdropWhile_concat_pos _ _ _ (by simpa using slash)]
        exact induction
      · rw [trimSlashes, trimSlashes,
          List.rdropWhile_concat_neg _ _ _ (by simpa using slash),
          List.rdropWhile_concat_neg _ _ _ (by simpa using slash),
          List.append_assoc]
        rfl

theorem clear_trimSlashes {set text : List Char} (clear : Clear set text) :
    Clear set (trimSlashes text) :=
  clear.of_subset fun _ member => (List.rdropWhile_prefix _ _).subset member

def IsMethodName (name : List Char) : Prop :=
  ∀ c ∈ name, ('a' ≤ c ∧ c ≤ 'z') ∨ c = '_'

instance : DecidablePred IsMethodName := fun name =>
  name.decidableBAll fun c => ('a' ≤ c ∧ c ≤ 'z') ∨ c = '_'

namespace IsMethodName

variable {name : List Char} (valid : IsMethodName name)

include valid

theorem bounds {c : Char} (member : c ∈ name) :
    95 ≤ c.toNat ∧ c.toNat ≠ 96 ∧ c.toNat ≤ 122 := by
  rcases valid c member with ⟨low, high⟩ | rfl
  · rw [Char.le_def, UInt32.le_iff_toNat_le] at low high
    have first : 97 ≤ c.toNat := low
    have last : c.toNat ≤ 122 := high
    omega
  · decide

theorem notMem {c : Char}
    (other : c.toNat < 95 ∨ c.toNat = 96 ∨ 122 < c.toNat) : c ∉ name := by
  intro member
  have bounds := valid.bounds member
  omega

theorem clear {set : List Char} (free : (set.all fun c =>
    c.toNat < 95 ∨ c.toNat = 96 ∨ 122 < c.toNat) = true) : Clear set name := by
  intro c member
  have bounds := valid.bounds member
  refine ⟨?_, fun listed => ?_⟩
  · rw [isControl, Bool.or_eq_false_iff, decide_eq_false_iff_not,
      decide_eq_false_iff_not]
    omega
  · exact valid.notMem
      (of_decide_eq_true (List.all_eq_true.mp free c listed)) member

theorem settled : Settled name where
  clear := valid.clear (by decide)
  whole c member := isSlash_eq_false_iff.mpr
    ⟨fun same => valid.notMem (by decide) (same ▸ member),
      fun same => valid.notMem (by decide) (same ▸ member)⟩
  steady := steady_of_free (valid.notMem (by decide)) (valid.notMem (by decide))

theorem clear_extended {set text : List Char} (clear : Clear set text)
    (slash : '/' ∉ set) (free : (set.all fun c =>
      c.toNat < 95 ∨ c.toNat = 96 ∨ 122 < c.toNat) = true) :
    Clear set (trimSlashes text ++ '/' :: name) := by
  refine clear_append (clear_trimSlashes clear) ?_
  exact List.forall_mem_cons.mpr ⟨⟨by decide, slash⟩, valid.clear free⟩

end IsMethodName

def extended (url : Url) (name : List Char) : Url :=
  match url.fragment, url.query, url.path with
  | some fragment, _, _ =>
      { url with fragment := some (trimSlashes fragment ++ '/' :: name) }
  | none, some query, _ =>
      { url with query := some (trimSlashes query ++ '/' :: name) }
  | none, none, .segments names =>
      { url with path := .segments (trimmed names ++ [name]) }
  | none, none, .plain letters =>
      { url with path := .plain (trimSlashes letters ++ '/' :: name) }

section Extended

variable {url : Url} {name query fragment : List Char}
  {names : List (List Char)}

theorem extended_fragment (marked : url.fragment = some fragment) :
    url.extended name =
      { url with fragment := some (trimSlashes fragment ++ '/' :: name) } := by
  rw [extended, marked]

theorem extended_query (unmarked : url.fragment = none)
    (asked : url.query = some query) :
    url.extended name =
      { url with query := some (trimSlashes query ++ '/' :: name) } := by
  rw [extended, unmarked, asked]

theorem extended_path (unmarked : url.fragment = none)
    (unasked : url.query = none) (path : url.path = .segments names) :
    url.extended name =
      { url with path := .segments (trimmed names ++ [name]) } := by
  rw [extended, unmarked, unasked, path]

theorem authority_extended (url : Url) (name : List Char) :
    (url.extended name).authority = url.authority := by
  rw [extended]
  split <;> rfl

namespace Canonical

theorem extended (canonical : Canonical url) (valid : IsMethodName name) :
    Canonical (url.extended name) := by
  obtain ⟨names, ownPath, path⟩ := canonical.path
  cases marked : url.fragment with
  | some fragment =>
      have clear := canonical.fragment fragment marked
      rw [extended_fragment marked]
      refine ⟨canonical.scheme, canonical.authority, canonical.path,
        canonical.query, ?_⟩
      rintro _ ⟨⟩
      exact valid.clear_extended clear (by decide) (by decide)
  | none =>
      cases asked : url.query with
      | some query =>
          have clear := canonical.query query asked
          rw [extended_query marked asked]
          refine ⟨canonical.scheme, canonical.authority, canonical.path, ?_,
            canonical.fragment⟩
          rintro _ ⟨⟩
          exact valid.clear_extended clear (by decide) (by decide)
      | none =>
          rw [extended_path marked asked ownPath]
          exact ⟨canonical.scheme, canonical.authority,
            ⟨_, rfl, path.concat_trimmed valid.settled⟩, canonical.query,
            canonical.fragment⟩

theorem path_trimmed (path : SettledPath names) :
    trimSlashes (Path.segments names).text =
      (Path.segments (trimmed names)).text :=
  text_trimmed fun name listed member =>
    absurd ((path.settled name listed).whole '/' member) (by decide)

theorem chars_extended (canonical : Canonical url) (name : List Char) :
    (url.extended name).chars = trimSlashes url.chars ++ '/' :: name := by
  obtain ⟨authority, ownAuthority, standing⟩ := canonical.authority
  obtain ⟨names, ownPath, path⟩ := canonical.path
  rw [chars_eq ownAuthority ownPath]
  cases marked : url.fragment with
  | some fragment =>
      have text : url.scheme ++ ':' :: (bodyText authority names ++
          marked? '?' url.query ++ marked? '#' (some fragment)) =
          (url.scheme ++ ':' :: (bodyText authority names ++
            marked? '?' url.query)) ++ '#' :: fragment := by
        simp [marked?]
      rw [extended_fragment marked, text, trimSlashes_append_cons (by decide)]
      refine Eq.trans (chars_eq ownAuthority ownPath) ?_
      simp [marked?]
  | none =>
      cases asked : url.query with
      | some query =>
          have text : url.scheme ++ ':' :: (bodyText authority names ++
              marked? '?' (some query) ++ marked? '#' none) =
              (url.scheme ++ ':' :: bodyText authority names) ++
                '?' :: query := by
            simp [marked?]
          rw [extended_query marked asked, text,
            trimSlashes_append_cons (by decide)]
          refine Eq.trans (chars_eq ownAuthority ownPath) ?_
          simp [marked?, marked]
      | none =>
          obtain ⟨init, last, written⟩ :=
            (List.eq_nil_or_concat' authority.text).resolve_left
              standing.text_ne_nil
          have other : last ≠ '/' := by
            rintro rfl
            exact absurd (not_slash standing (written ▸
              List.mem_append_right _ List.mem_cons_self)) (by decide)
          have text : url.scheme ++ ':' :: (bodyText authority names ++
              marked? '?' none ++ marked? '#' none) =
              (url.scheme ++ ':' :: '/' :: '/' :: init) ++
                last :: (Path.segments names).text := by
            simp [marked?, bodyText, written]
          rw [extended_path marked asked ownPath, text,
            trimSlashes_append_cons other, path_trimmed path]
          refine Eq.trans (chars_eq ownAuthority rfl) ?_
          simp [marked?, marked, asked, bodyText, written, Path.text]

end Canonical

end Extended

def IsAt (url : Url) (host : Host) : Prop :=
  ∃ authority, url.authority = some authority ∧ authority.host = some host

namespace IsAt

variable {url : Url} {host other : Host} (hosted : url.IsAt host)

include hosted

theorem authority_withHost_iff :
    (url.withHost other).authority = url.authority ↔ other = host := by
  obtain ⟨authority, owned, hosted⟩ := hosted
  rw [withHost, owned, Option.map_some, Option.some_inj, Authority.withHost]
  constructor
  · intro same
    have there := congrArg Authority.host same
    rw [hosted] at there
    exact Option.some_inj.mp there
  · rintro rfl
    rw [← hosted]

theorem withHost_self : url.withHost host = url := by
  have same : url.authority.map (·.withHost host) = url.authority :=
    hosted.authority_withHost_iff.mpr rfl
  rw [withHost, same]

theorem isAt_iff : url.IsAt other ↔ host = other := by
  constructor
  · obtain ⟨authority, owned, hosted⟩ := hosted
    rintro ⟨_, again, there⟩
    rw [owned, Option.some_inj] at again
    rwa [← again, hosted, Option.some_inj] at there
  · rintro rfl
    exact hosted

end IsAt

/-- What a URL comes to with a name behind it. The path gets the name just if
nothing follows the path. -/
structure Extends (url base : Url) (name : List Char) : Prop where
  scheme : url.scheme = base.scheme
  authority : url.authority = base.authority
  bare : base.query = none → base.fragment = none →
    url.path.text = trimSlashes base.path.text ++ '/' :: name ∧
      url.query = none ∧ url.fragment = none
  asked : ∀ query, base.query = some query → base.fragment = none →
    url.path = base.path ∧
      url.query = some (trimSlashes query ++ '/' :: name) ∧
      url.fragment = none
  marked : ∀ fragment, base.fragment = some fragment →
    url.path = base.path ∧ url.query = base.query ∧
      url.fragment = some (trimSlashes fragment ++ '/' :: name)

theorem Canonical.extends {url : Url} (canonical : Canonical url)
    (name : List Char) : Extends (url.extended name) url name := by
  obtain ⟨names, ownPath, path⟩ := canonical.path
  cases marked : url.fragment with
  | some fragment =>
      rw [extended_fragment marked]
      refine ⟨rfl, rfl, fun _ unmarked => ?_, fun _ _ unmarked => ?_, ?_⟩
      · rw [marked] at unmarked
        cases unmarked
      · rw [marked] at unmarked
        cases unmarked
      · intro found same
        rw [marked] at same
        cases same
        exact ⟨rfl, rfl, rfl⟩
  | none =>
      have absent {fragment : List Char}
          (other : url.fragment = some fragment) : False := by
        rw [marked] at other
        cases other
      cases asked : url.query with
      | some query =>
          rw [extended_query marked asked]
          refine ⟨rfl, rfl, fun unasked => ?_, ?_, fun _ other =>
            (absent other).elim⟩
          · rw [asked] at unasked
            cases unasked
          · intro found same _
            rw [asked] at same
            cases same
            exact ⟨rfl, rfl, marked⟩
      | none =>
          rw [extended_path marked asked ownPath]
          refine ⟨rfl, rfl, fun _ _ => ⟨?_, asked, marked⟩, ?_, fun _ other =>
            (absent other).elim⟩
          · rw [ownPath, path_trimmed path]
            simp [Path.text]
          · intro found same
            rw [asked] at same
            cases same

end Url

namespace BridgeConfig

theorem canonical_defaultEndpoint : defaultEndpoint.Canonical where
  scheme := List.mem_cons_self
  authority := by
    refine ⟨_, rfl, Url.clear_nil, Url.clear_nil,
      ⟨_, rfl, .ipv4 (by decide)⟩, ?_⟩
    rintro number ⟨⟩
    exact ⟨by decide, by decide +kernel⟩
  path := ⟨_, rfl, List.cons_ne_nil _ _,
    List.forall_mem_singleton.mpr Url.settled_nil⟩
  query := nofun
  fragment := nofun

section Method

variable {config : BridgeConfig} {method : String} {host : Url.Host}

/-- A method is called at the endpoint with its name behind it, but at the host
that the host of the endpoint is read as. -/
theorem methodUrl_ok_iff (canonical : config.endpoint.Canonical)
    (valid : Url.IsMethodName method.toList)
    (hosted : config.endpoint.IsAt host) {url : Url} :
    config.methodUrl method = .ok url ↔
      ∃ other, Url.Host.readSpecial host.text = .ok other ∧
        (config.endpoint.extended method.toList).withHost other = url := by
  obtain ⟨authority, owned, hosted⟩ := hosted
  have text : (config.endpoint.extended method.toList).text =
      String.ofList (config.base ++ '/' :: method.toList) := by
    rw [Url.text, canonical.chars_extended]
    rfl
  rw [← Url.authority_extended _ method.toList] at owned
  rw [methodUrl, ← text, (canonical.extended valid).read_text owned hosted]
  cases Url.Host.readSpecial host.text with
  | error fault => simp [Except.map, Except.mapError]
  | ok other => simp [Except.map, Except.mapError]

theorem extends_iff_stands (canonical : config.endpoint.Canonical)
    (valid : Url.IsMethodName method.toList)
    (hosted : config.endpoint.IsAt host) :
    (∃ url, config.methodUrl method = .ok url ∧
      url.Extends config.endpoint method.toList) ↔ host.Stands := by
  have placed : (config.endpoint.extended method.toList).IsAt host := by
    rwa [Url.IsAt, Url.authority_extended]
  constructor
  · rintro ⟨url, called, behind⟩
    obtain ⟨other, read, rfl⟩ :=
      (methodUrl_ok_iff canonical valid hosted).mp called
    have same := behind.authority.trans
      (Url.authority_extended _ method.toList).symm
    rw [Url.Host.Stands, read, placed.authority_withHost_iff.mp same]
  · intro stands
    refine ⟨_, (methodUrl_ok_iff canonical valid hosted).mpr
      ⟨host, stands, rfl⟩, ?_⟩
    rw [placed.withHost_self]
    exact canonical.extends method.toList

end Method

end BridgeConfig

namespace BridgeDraft

variable {draft : BridgeDraft} {config : BridgeConfig} {url : Url}

theorem checkScheme_ok {checked : Url}
    (passed : checkScheme url = .ok checked) :
    checked = url ∧ url.scheme ∈ Url.webSchemes := by
  rw [checkScheme] at passed
  split at passed
  next web =>
    cases passed
    rw [← String.toList_inj, ← String.toList_inj, String.toList_ofList] at web
    exact ⟨rfl, by simpa [Url.webSchemes] using web⟩
  next => cases passed

theorem canonical_of_endpointUrl (found : draft.endpointUrl = .ok url) :
    url.Canonical := by
  rw [endpointUrl] at found
  split at found
  next text _ =>
    obtain ⟨read, accepted, checked⟩ := Except.bind_ok found
    obtain ⟨rfl, web⟩ := checkScheme_ok checked
    rw [readEndpoint] at accepted
    cases result : Url.read text with
    | error fault =>
        rw [result] at accepted
        cases accepted
    | ok other =>
        rw [result] at accepted
        cases accepted
        exact Url.canonical_of_read result web
  next =>
    cases found
    exact BridgeConfig.canonical_defaultEndpoint

theorem canonical_of_build (built : draft.build = .ok config) :
    config.endpoint.Canonical := by
  obtain ⟨endpoint, found, made⟩ := Except.bind_ok built
  have canonical := canonical_of_endpointUrl found
  split at made
  next => cases made
  next =>
    cases made
    exact canonical

/-- Behind every endpoint that a configuration can be built with stands the name
of a method, if the host is read as itself. Addresses and plain names are. -/
theorem addressing (built : draft.build = .ok config) {method : String}
    (valid : Url.IsMethodName method.toList) :
    (∃ url, config.methodUrl method = .ok url ∧
        url.Extends config.endpoint method.toList) ↔
      ∀ letters, config.endpoint.IsAt (.name letters) →
        ¬ Url.Domain.Plain letters →
          Url.Domain.ascii? letters = some letters := by
  have canonical := canonical_of_build built
  obtain ⟨authority, owned, standing⟩ := canonical.authority
  obtain ⟨host, hosted, standing⟩ := standing.host
  have placed : config.endpoint.IsAt host := ⟨authority, owned, hosted⟩
  rw [BridgeConfig.extends_iff_stands canonical valid placed,
    standing.stands_iff]
  simp only [placed.isAt_iff]

def atAddress (path : List (List Char)) (query : Option (List Char)) :
    BridgeConfig where
  endpoint :=
    { scheme := "http".toList
      authority := some { host := some (.ipv6 [0, 0, 0, 0, 0, 0, 0, 1]) }
      path := .segments path
      query := query }
  timeoutSeconds := 30

def slashed : BridgeConfig := atAddress ["api".toList, [], []] none

def queried : BridgeConfig := atAddress ["api".toList] "tenant=blue".toList

theorem build_slashed :
    BridgeDraft.build { endpoint := some "http://[::1]/api//" } =
      .ok slashed := by
  decide +kernel

theorem build_queried :
    BridgeDraft.build { endpoint := some "http://[::1]/api?tenant=blue" } =
      .ok queried := by
  decide +kernel

theorem isMethodName_createUser : Url.IsMethodName "create_user".toList := by
  decide +kernel

theorem addressing_slashed :
    ∃ url, slashed.methodUrl "create_user" = .ok url ∧
      url.path.text = "/api/create_user".toList := by
  have unnamed (letters : List Char) :
      ¬ slashed.endpoint.IsAt (.name letters) := by
    rintro ⟨_, ⟨⟩, hosted⟩
    cases hosted
  obtain ⟨url, called, behind⟩ :=
    (addressing build_slashed isMethodName_createUser).mpr
      fun letters named => absurd named (unnamed letters)
  refine ⟨url, called, (behind.bare rfl rfl).1.trans ?_⟩
  decide +kernel

/-- Behind a query the name of a method does not come to stand in the path. -/
theorem addressing_queried :
    BridgeDraft.build { endpoint := some "http://[::1]/api?tenant=blue" } =
        .ok queried ∧
      Url.IsMethodName "create_user".toList ∧
      ¬ ∃ url, queried.methodUrl "create_user" = .ok url ∧
        url.path.text = Url.trimSlashes queried.endpoint.path.text ++
          '/' :: "create_user".toList := by
  refine ⟨build_queried, isMethodName_createUser, ?_⟩
  rintro ⟨url, called, path⟩
  have made : queried.methodUrl "create_user" = .ok (atAddress ["api".toList]
      "tenant=blue/create_user".toList).endpoint := by
    decide +kernel
  rw [made] at called
  cases called
  revert path
  decide +kernel

end BridgeDraft

end Orchestration
