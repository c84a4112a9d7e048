import LocalProxy.StdNet
import LocalProxy.Http

/-! The types of transparent proxying of `tproxy_tokio`, each there on the systems it is
compiled for, with their names and the list of what a system has to offer. -/

namespace LocalProxy.RedirTypes
open Strings Addr Http

/-- `target_os`, as far as the source tells the systems apart. -/
inductive Platform where
  | linux
  | android
  | freebsd
  | openbsd
  | netbsd
  | macos
  | ios
  | other
  deriving DecidableEq, Repr

/-- The variants of the enumeration. -/
inductive Kind where
  | notSupported
  | redirect
  | tProxy
  | packetFilter
  | ipFirewall
  deriving DecidableEq, Repr

/-- The `cfg` of a variant. -/
def Kind.compiled (platform : Platform) : Kind → Bool
  | .notSupported => true
  | .redirect => platform = .linux || platform = .android
  | .tProxy => platform = .linux || platform = .android
  | .packetFilter =>
    platform = .freebsd || platform = .openbsd || platform = .macos || platform = .ios
  | .ipFirewall => platform = .freebsd || platform = .macos || platform = .ios

/-- A value of the enumeration as it is compiled for a system. -/
structure RedirType (platform : Platform) where
  kind : Kind
  compiled : kind.compiled platform = true
  deriving DecidableEq, Repr

variable {platform : Platform}

def notSupported : RedirType platform := ⟨.notSupported, rfl⟩

def tcpDefault : (platform : Platform) → RedirType platform
  | .linux => ⟨.redirect, rfl⟩
  | .android => ⟨.redirect, rfl⟩
  | .freebsd => ⟨.packetFilter, rfl⟩
  | .openbsd => ⟨.packetFilter, rfl⟩
  | .macos => ⟨.packetFilter, rfl⟩
  | .ios => ⟨.packetFilter, rfl⟩
  | .netbsd => notSupported
  | .other => notSupported

def RedirType.isSupported (ty : RedirType platform) : Bool := ty ≠ notSupported

def Kind.name : Kind → Text
  | .notSupported => "not_supported".toList
  | .redirect => "redirect".toList
  | .tProxy => "tproxy".toList
  | .packetFilter => "pf".toList
  | .ipFirewall => "ipfw".toList

def RedirType.name (ty : RedirType platform) : Text := ty.kind.name

def tcpAvailableTypes : Platform → List Text
  | .linux => [Kind.redirect.name, Kind.tProxy.name]
  | .android => [Kind.redirect.name, Kind.tProxy.name]
  | .freebsd => [Kind.packetFilter.name, Kind.ipFirewall.name]
  | .openbsd => [Kind.packetFilter.name]
  | .macos => [Kind.packetFilter.name, Kind.ipFirewall.name]
  | .ios => [Kind.packetFilter.name, Kind.ipFirewall.name]
  | .netbsd => []
  | .other => []

/-- An arm of `from_str` with the `cfg` of its variant. -/
def variant (platform : Platform) (kind : Kind) : Except Error (RedirType platform) :=
  if compiled : kind.compiled platform = true then .ok ⟨kind, compiled⟩ else .error .other

def fromStr (platform : Platform) (s : Text) : Except Error (RedirType platform) :=
  if s = "redirect".toList then variant platform .redirect
  else if s = "tproxy".toList then variant platform .tProxy
  else if s = "pf".toList then variant platform .packetFilter
  else if s = "ipfw".toList then variant platform .ipFirewall
  else .error .other

theorem variant_ok {kind : Kind} {ty : RedirType platform} (made : variant platform kind = .ok ty) :
    ty.kind = kind := by
  unfold variant at made
  split at made
  · cases made
    rfl
  · cases made

theorem variant_compiled (ty : RedirType platform) : variant platform ty.kind = .ok ty := by
  unfold variant
  rw [dif_pos ty.compiled]

theorem isSupported_iff {ty : RedirType platform} :
    ty.isSupported = true ↔ ty.kind ≠ .notSupported := by
  have same : ty = notSupported ↔ ty.kind = .notSupported := by
    constructor
    · intro dummy
      rw [dummy]
      rfl
    · intro dummy
      obtain ⟨kind, compiled⟩ := ty
      cases dummy
      rfl
  rw [RedirType.isSupported, decide_eq_true_iff, ne_eq, same]

/-- A name is read as the type that it names, and the dummy has none. -/
theorem fromStr_ok {s : Text} {ty : RedirType platform} :
    fromStr platform s = .ok ty ↔ ty.name = s ∧ ty.isSupported = true := by
  rw [isSupported_iff]
  constructor
  · intro read
    unfold fromStr at read
    split_ifs at read with first second third fourth
    · rw [RedirType.name, variant_ok read, first]
      decide
    · rw [RedirType.name, variant_ok read, second]
      decide
    · rw [RedirType.name, variant_ok read, third]
      decide
    · rw [RedirType.name, variant_ok read, fourth]
      decide
  · intro both
    obtain ⟨named, supported⟩ := both
    have made := variant_compiled ty
    rw [← named, RedirType.name]
    cases kind : ty.kind with
    | notSupported => exact (supported kind).elim
    | redirect => rw [kind] at made; exact made
    | tProxy => rw [kind] at made; exact made
    | packetFilter => rw [kind] at made; exact made
    | ipFirewall => rw [kind] at made; exact made

/-- What a system has to offer is what is compiled for it, less the dummy. -/
theorem compiled_offered (platform : Platform) (kind : Kind) :
    kind.name ∈ tcpAvailableTypes platform ↔
      kind ≠ .notSupported ∧ kind.compiled platform = true := by
  cases platform <;> cases kind <;> decide

theorem offered_named {s : Text} (offered : s ∈ tcpAvailableTypes platform) :
    ∃ kind, Kind.name kind = s := by
  cases platform with
  | netbsd => cases offered
  | other => cases offered
  | openbsd => exact ⟨.packetFilter, (List.mem_singleton.mp offered).symm⟩
  | _ =>
    rcases List.mem_pair.mp offered with first | second
    · exact ⟨_, first.symm⟩
    · exact ⟨_, second.symm⟩

/-- The names that are read are the ones a system has to offer. -/
theorem available_iff {s : Text} :
    s ∈ tcpAvailableTypes platform ↔ ∃ ty, fromStr platform s = .ok ty := by
  constructor
  · intro offered
    obtain ⟨kind, named⟩ := offered_named offered
    rw [← named] at offered
    obtain ⟨real, compiled⟩ := (compiled_offered platform kind).mp offered
    exact ⟨⟨kind, compiled⟩, fromStr_ok.mpr ⟨named, isSupported_iff.mpr real⟩⟩
  · intro found
    obtain ⟨ty, read⟩ := found
    obtain ⟨named, supported⟩ := fromStr_ok.mp read
    rw [← named]
    exact (compiled_offered platform ty.kind).mpr ⟨isSupported_iff.mp supported, ty.compiled⟩

end LocalProxy.RedirTypes
