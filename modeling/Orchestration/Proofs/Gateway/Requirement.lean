import Orchestration.Gateway.Requirement
import Orchestration.Proofs.Gateway.Version

namespace Orchestration

open Text

namespace Version

theorem compare_eq_lt_iff {a b : Version} (released : a.prerelease = [])
    (bounded : b.prerelease = []) :
    a.compare b = .lt ↔ a.major < b.major ∨ a.major = b.major ∧
      (a.minor < b.minor ∨ a.minor = b.minor ∧ a.patch < b.patch) := by
  simp [compare, comparePrereleases, released, bounded, Ordering.then_eq_lt,
    Nat.compare_eq_lt]

end Version

namespace Bound

theorem admits_less_iff {low version : Version} :
    admits ⟨.less, low⟩ version = true ↔ version.compare low = .lt := by
  rw [admits, Comparison.holds, Ordering.isLT_iff_eq_lt]

theorem admits_atLeast_iff {low version : Version} :
    admits ⟨.atLeast, low⟩ version = true ↔ version.compare low ≠ .lt := by
  rw [admits, Comparison.holds, Ordering.isGE_iff_ne_lt]

end Bound

namespace Requirement

theorem admits_iff {requirement : Requirement} {version : Version}
    (released : ∀ bound ∈ requirement.bounds,
      bound.version.prerelease = []) :
    requirement.admits version = true ↔ version.prerelease = [] ∧
      ∀ bound ∈ requirement.bounds, bound.admits version = true := by
  have unnamed : requirement.bounds.any (·.namesPrerelease version) = false :=
    List.any_eq_false.mpr fun bound member => by
      simp [Bound.namesPrerelease, released bound member]
  rw [admits, unnamed, Bool.or_false, Bool.and_eq_true, List.all_eq_true,
    List.isEmpty_iff, and_comm]

end Requirement

namespace Gateway

/-- At least 3.2.0, and less than 3.4.0. -/
def supportedRange : Requirement where
  bounds := [
    ⟨.atLeast, { major := 3, minor := 2, patch := 0 }⟩,
    ⟨.less, { major := 3, minor := 4, patch := 0 }⟩]

theorem read?_supportedVersions :
    Requirement.read? supportedVersions = some supportedRange := by
  decide +kernel

theorem admits_supportedRange_iff {version : Version} :
    supportedRange.admits version = true ↔ version.prerelease = [] ∧
      version.major = 3 ∧ (version.minor = 2 ∨ version.minor = 3) := by
  rw [Requirement.admits_iff (by simp [supportedRange])]
  refine and_congr_right fun released => ?_
  simp only [supportedRange, List.forall_mem_cons, List.not_mem_nil,
    Bound.admits_atLeast_iff, Bound.admits_less_iff, ne_eq,
    Version.compare_eq_lt_iff released]
  simp
  omega

theorem supports_eq (version : String) :
    supports version =
      (Version.read? (trim version.toList)).any supportedRange.admits := by
  rw [supports, read?_supportedVersions]

theorem exists_isSpelling_iff {text : List Char} :
    (∃ read, Version.IsSpelling text read ∧ read.prerelease = [] ∧
        read.major = 3 ∧ (read.minor = 2 ∨ read.minor = 3)) ↔
      ∃ minor patch value build,
        text = ['3', '.', minor, '.'] ++ patch ++ Version.marked '+' build ∧
        (minor = '2' ∨ minor = '3') ∧ Version.IsNumber patch value ∧
          ∀ part ∈ build, Version.IsIdentifier part := by
  constructor
  · rintro ⟨read, spelling, released, three, range⟩
    obtain @⟨_, first, second, third, major, minor, patch, -, build⟩ := spelling
    rw [three] at major
    obtain rfl := major.of_lt_ten (by decide)
    have small : read.minor < 10 := by omega
    obtain rfl := minor.of_lt_ten small
    refine ⟨read.minor.digitChar, third, read.patch, read.build, ?_, ?_, patch,
      build⟩
    · simp [released]
    · exact range.imp (congrArg Nat.digitChar) (congrArg Nat.digitChar)
  · rintro ⟨minor, patch, value, build, rfl, range, number, identifiers⟩
    obtain ⟨second, small, within, rfl⟩ : ∃ second < 10,
        (second = 2 ∨ second = 3) ∧ minor = second.digitChar := by
      rcases range with rfl | rfl
      · exact ⟨2, by decide, .inl rfl, rfl⟩
      · exact ⟨3, by decide, .inr rfl, rfl⟩
    let read : Version := { major := 3, minor := second, patch := value, build }
    have three : Version.IsNumber ['3'] 3 :=
      @Version.isNumber_digitChar 3 (by decide)
    have spelling := @Version.IsSpelling.of read _ _ _ three
      (Version.isNumber_digitChar small) number nofun identifiers
    exact ⟨read, by simpa [read] using spelling, rfl, rfl, within⟩

/-- A gateway is supported if and only if its version, apart from blanks around
it, is spelled `3.2.` or `3.3.`, a number without leading zeros that fits a
word, and perhaps a build part. No pre-release is supported. -/
theorem spellings (version : String) :
    (supports version = true ↔ ∃ minor patch value build,
      Surrounds version.toList
        (['3', '.', minor, '.'] ++ patch ++ Version.marked '+' build) ∧
      (minor = '2' ∨ minor = '3') ∧ Version.IsNumber patch value ∧
        ∀ part ∈ build, Version.IsIdentifier part) ∧
    ∀ core read, Surrounds version.toList core → Version.IsSpelling core read →
      read.prerelease ≠ [] → supports version = false := by
  refine ⟨?_, ?_⟩
  · simp only [supports_eq, Option.any_eq_true, Version.read?_trim_eq_some_iff,
      admits_supportedRange_iff]
    constructor
    · rintro ⟨read, ⟨core, around, spelling⟩, range⟩
      obtain ⟨minor, patch, value, build, rfl, form⟩ :=
        exists_isSpelling_iff.mp ⟨read, spelling, range⟩
      exact ⟨minor, patch, value, build, around, form⟩
    · rintro ⟨minor, patch, value, build, around, form⟩
      obtain ⟨read, spelling, range⟩ :=
        exists_isSpelling_iff.mpr ⟨minor, patch, value, build, rfl, form⟩
      exact ⟨read, ⟨_, around, spelling⟩, range⟩
  · intro core read around spelling prerelease
    have held := Version.read?_trim_eq_some_iff.mpr ⟨core, around, spelling⟩
    rw [supports_eq, held, Option.any_some, Bool.eq_false_iff]
    intro admitted
    exact prerelease (admits_supportedRange_iff.mp admitted).1

theorem spellings_padded :
    let padded := "\n3.3.18446744073709551615+001.x-y "
    let candidate := "3.2.1-rc.1+7"
    let read : Version :=
      { major := 3, minor := 2, patch := 1, prerelease := [['r', 'c'], ['1']],
        build := [['7']] }
    supports padded = true ∧
      Surrounds candidate.toList candidate.toList ∧
      Version.IsSpelling candidate.toList read ∧ read.prerelease ≠ [] ∧
        supports candidate = false := by
  intro padded candidate read
  have around : Surrounds candidate.toList candidate.toList :=
    ⟨[], [], by simp, nofun, nofun⟩
  have spelling : Version.IsSpelling candidate.toList read :=
    Version.read?_eq_some_iff.mp (by decide +kernel)
  have patch : Version.IsNumber "18446744073709551615".toList (2 ^ 64 - 1) :=
    Version.number?_eq_some_iff.mp (by decide +kernel)
  have accepted : supports padded = true := (spellings padded).1.mpr
    ⟨'3', _, _, [['0', '0', '1'], ['x', '-', 'y']],
      ⟨['\n'], [' '], by decide +kernel, List.forall_mem_singleton.mpr rfl,
        List.forall_mem_singleton.mpr rfl⟩,
      .inr rfl, patch, by decide⟩
  exact ⟨accepted, around, spelling, List.cons_ne_nil _ _,
    (spellings candidate).2 _ read around spelling (List.cons_ne_nil _ _)⟩

end Gateway

end Orchestration
