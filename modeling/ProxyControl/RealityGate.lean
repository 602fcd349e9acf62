import Mathlib.Data.Nat.Digits.Defs
import Mathlib.Data.Prod.Lex
import ProxyControl.CompiledInbounds

/-!
# The version gate of REALITY

The compiler splits the core version at the dots, drops the components that are
not decimal numbers of 64 bits, and takes the first two of the rest for the major
and the minor version.  A leading `v` makes the first component unreadable, so
the minor version and the patch are compared with 1.8 instead.
-/

namespace ProxyControl

/-- The number that decimal digits stand for, the first digit leading. -/
def decimalValue (digits : List Char) : ℕ :=
  Nat.ofDigits 10 (digits.reverse.map (fun c => c.toNat - 48))

/-- A decimal number of 64 bits as it is written. -/
structure VersionComponent where
  digits : List Char
  nonempty : digits ≠ []
  decimal : digits.all Char.isDigit = true
  fits : decimalValue digits < UInt64.size

def VersionComponent.value (self : VersionComponent) : ℕ :=
  decimalValue self.digits

/-- The form `MAJOR.MINOR[.PATCH...]`, perhaps with a leading `v`. -/
structure CoreVersion where
  marked : Bool
  major : VersionComponent
  minor : VersionComponent
  patch : List VersionComponent

namespace CoreVersion

def text (self : CoreVersion) : String :=
  String.ofList ((if self.marked then ['v'] else []) ++
    ['.'].intercalate ((self.major :: self.minor :: self.patch).map
      VersionComponent.digits))

/-- What the version says. -/
def number (self : CoreVersion) : ℕ × ℕ :=
  (self.major.value, self.minor.value)

/-- The two components after the first; an absent patch counts as zero. -/
def shifted (self : CoreVersion) : ℕ × ℕ :=
  (self.minor.value, (self.patch.head?.map VersionComponent.value).getD 0)

end CoreVersion

/-- The first version with REALITY. -/
def firstWithReality : ℕ × ℕ :=
  (1, 8)

/-- REALITY is too new for the version. -/
def TooOld (number : ℕ × ℕ) : Prop :=
  toLex number < toLex firstWithReality

instance (number : ℕ × ℕ) : Decidable (TooOld number) :=
  inferInstanceAs (Decidable (toLex number < toLex firstWithReality))

/-! ## What the compiler reads -/

theorem foldl_decimal
    (digits : List Char) :
    digits.foldl (fun acc c => 10 * acc + (c.toNat - 48)) 0 =
      decimalValue digits := by
  induction digits using List.reverseRecOn with
  | nil => rfl
  | append_singleton digits d ih =>
      rw [List.foldl_append, ih]
      simp only [decimalValue, List.reverse_append, List.reverse_singleton,
        List.singleton_append, List.map_cons, Nat.ofDigits_cons,
        List.foldl_cons, List.foldl_nil]
      omega

theorem VersionComponent.isDigit
    (component : VersionComponent) {c : Char} (hc : c ∈ component.digits) :
    c.isDigit = true :=
  List.all_eq_true.mp component.decimal c hc

theorem VersionComponent.parseU64_eq
    (component : VersionComponent) :
    parseU64 component.digits = some component.value := by
  have hread : ¬ (component.digits.isEmpty = true ∨
      ¬ component.digits.all Char.isDigit = true) := by
    simp [component.nonempty, component.decimal]
  unfold parseU64
  split
  · next rest hdigits =>
      have hplus := component.isDigit (c := '+') (by simp [hdigits])
      simp at hplus
  · simp only [if_neg hread, foldl_decimal]
    exact if_pos component.fits

/-- A component behind a `v` is not a number. -/
theorem parseU64_marked
    (digits : List Char) :
    parseU64 ('v' :: digits) = none := by
  simp [parseU64]

/-- The components of a version in the order of its text. -/
theorem CoreVersion.splitOn_text
    (version : CoreVersion) :
    version.text.toList.splitOn '.' =
      ((if version.marked then ['v'] else []) ++ version.major.digits) ::
        (version.minor :: version.patch).map VersionComponent.digits := by
  have hdot : ∀ component : VersionComponent, '.' ∉ component.digits := by
    intro component hmem
    have hdigit := component.isDigit hmem
    simp at hdigit
  have htext : version.text.toList =
      ['.'].intercalate
        (((if version.marked then ['v'] else []) ++ version.major.digits) ::
          (version.minor :: version.patch).map VersionComponent.digits) := by
    simp [CoreVersion.text]
  rw [htext, List.splitOn_intercalate]
  · rw [List.forall_mem_cons, List.forall_mem_map]
    refine ⟨?_, fun component _ => hdot component⟩
    intro hmem
    rcases List.mem_append.mp hmem with hmark | hmem
    · split at hmark <;> simp at hmark
    · exact hdot _ hmem
  · simp

theorem filterMap_parseU64
    (components : List VersionComponent) :
    (components.map VersionComponent.digits).filterMap parseU64 =
      components.map VersionComponent.value := by
  induction components with
  | nil => rfl
  | cons component components ih =>
      rw [List.map_cons, List.filterMap_cons_some component.parseU64_eq, ih,
        List.map_cons]

/-- The gate compares the first two numbers it can read. -/
theorem CoreVersion.supportsReality_iff
    (version : CoreVersion) :
    supportsReality version.text = false ↔
      TooOld (if version.marked then version.shifted else version.number) := by
  have hparts :
      (version.text.toList.splitOn '.').filterMap parseU64 =
        (if version.marked then [] else [version.major.value]) ++
          (version.minor :: version.patch).map VersionComponent.value := by
    rw [version.splitOn_text]
    split_ifs with hmarked
    · rw [List.singleton_append, List.filterMap_cons_none (parseU64_marked _),
        filterMap_parseU64, List.nil_append]
    · rw [List.nil_append,
        List.filterMap_cons_some version.major.parseU64_eq, filterMap_parseU64,
        List.singleton_append]
  unfold supportsReality TooOld firstWithReality
  rw [hparts, Prod.Lex.toLex_lt_toLex]
  cases hmarked : version.marked with
  | false =>
      simp [CoreVersion.number]
      omega
  | true =>
      cases hpatch : version.patch with
      | nil =>
          simp [CoreVersion.shifted, hpatch]
          omega
      | cons patch rest =>
          simp [CoreVersion.shifted, hpatch]
          omega

/-! ## The gate -/

/-- A VLESS inbound with REALITY whose private key is there. -/
structure RealityInbound (ctx : CompileContext) (inbound : Inbound) : Prop where
  protocol : inbound.protocol = .vless
  security : ∃ serverName privateKeyRef shortIds privateKey,
    inbound.security = .reality serverName privateKeyRef shortIds ∧
      ctx.secrets.lookup privateKeyRef.id = some privateKey

/-- The compilation fails because REALITY is not supported. -/
def FailsUnsupported (result : Except CompileError CompiledXrayConfig) : Prop :=
  ∃ version, result = .error (.unsupportedReality version)

/-- The gate refuses exactly the versions below 1.8. -/
def GateHolds
    (crates : Crates) (ir : ProfileIr) (ctx : CompileContext)
    (version : CoreVersion) : Prop :=
  FailsUnsupported (compileProfileToXray crates ir ctx) ↔ TooOld version.number

/--
Where the gate is reached, the components after a leading `v` are on the same
side of 1.8 as the version; where it is not, the version is not below 1.8.
-/
def ReadsRight (ir : ProfileIr) (version : CoreVersion) : Prop :=
  if ir.inbounds ≠ [] ∧ ir.validate = .ok () then
    version.marked = true → (TooOld version.shifted ↔ TooOld version.number)
  else
    ¬ TooOld version.number

variable {crates : Crates} {ir : ProfileIr} {ctx : CompileContext}
variable {inbound : Inbound}

theorem RealityInbound.compileInbound_eq
    (h : RealityInbound ctx inbound)
    (hversion : supportsReality ctx.coreVersion = false) :
    compileInbound crates ctx inbound =
      .error (.unsupportedReality ctx.coreVersion) := by
  obtain ⟨serverName, key, shortIds, privateKey, hsecurity, -⟩ := h.security
  simp [compileInbound, h.protocol, compileVless, hsecurity, hversion]

theorem RealityInbound.exists_compileInbound
    (h : RealityInbound ctx inbound)
    (hversion : supportsReality ctx.coreVersion = true) :
    ∃ json, compileInbound crates ctx inbound = .ok json := by
  obtain ⟨serverName, key, shortIds, privateKey, hsecurity, hkey⟩ := h.security
  simp [compileInbound, h.protocol, compileVless, hsecurity, hversion, hkey]

/-- The gate is reached by a valid profile with an inbound. -/
theorem failsUnsupported_iff
    (hinbounds : ∀ inbound ∈ ir.inbounds, RealityInbound ctx inbound) :
    FailsUnsupported (compileProfileToXray crates ir ctx) ↔
      (ir.inbounds ≠ [] ∧ ir.validate = .ok ()) ∧
        supportsReality ctx.coreVersion = false := by
  unfold compileProfileToXray
  cases hvalid : ir.validate with
  | error error =>
      refine iff_of_false ?_ (by simp)
      rintro ⟨version, h⟩
      cases h
  | ok u =>
      cases hversion : supportsReality ctx.coreVersion with
      | true =>
          refine iff_of_false ?_ (by simp)
          obtain ⟨jsons, hjsons⟩ : ∃ jsons,
              ir.inbounds.mapM (compileInbound crates ctx) = .ok jsons := by
            generalize ir.inbounds = inbounds at hinbounds
            induction inbounds with
            | nil => exact ⟨[], rfl⟩
            | cons inbound inbounds ih =>
                rw [List.forall_mem_cons] at hinbounds
                obtain ⟨json, hjson⟩ :
                    ∃ json, compileInbound crates ctx inbound = .ok json :=
                  hinbounds.1.exists_compileInbound hversion
                obtain ⟨jsons, hjsons⟩ := ih hinbounds.2
                exact ⟨json :: jsons, by rw [List.mapM_cons, hjson, hjsons]; rfl⟩
          rw [hjsons]
          rintro ⟨version, h⟩
          cases h
      | false =>
          cases hlist : ir.inbounds with
          | nil =>
              refine iff_of_false ?_ (by simp)
              rintro ⟨version, h⟩
              cases h
          | cons inbound inbounds =>
              refine iff_of_true ⟨ctx.coreVersion, ?_⟩ (by simp)
              have hfirst := hinbounds inbound (by simp [hlist])
              rw [List.mapM_cons, hfirst.compileInbound_eq hversion]
              rfl

/--
For VLESS inbounds with REALITY and their keys present, compilation fails as
unsupported exactly below 1.8, if and only if the version is read right.
-/
theorem reality_gate_iff
    (crates : Crates) (ir : ProfileIr) (ctx : CompileContext)
    (version : CoreVersion) (hversion : ctx.coreVersion = version.text)
    (hinbounds : ∀ inbound ∈ ir.inbounds, RealityInbound ctx inbound) :
    GateHolds crates ir ctx version ↔ ReadsRight ir version := by
  unfold GateHolds ReadsRight
  rw [failsUnsupported_iff hinbounds, hversion, version.supportsReality_iff]
  by_cases hreached : ir.inbounds ≠ [] ∧ ir.validate = .ok ()
  · rw [if_pos hreached, and_iff_right hreached]
    cases hmarked : version.marked <;> simp
  · rw [if_neg hreached]
    simp only [hreached, false_and, false_iff]

/-! ### Version 1.7.5 -/

/-- A component of one digit. -/
def digitComponent (d : Fin 10) : VersionComponent where
  digits := [Char.ofNat (48 + d)]
  nonempty := List.cons_ne_nil _ _
  decimal := by revert d; decide
  fits := by revert d; decide

/-- The version 1.7.5, written with a `v` or without. -/
def version175 (marked : Bool) : CoreVersion where
  marked := marked
  major := digitComponent 1
  minor := digitComponent 7
  patch := [digitComponent 5]

def realityContext (version : CoreVersion) : CompileContext :=
  (CompileContext.new version.text).withSecret "sec_reality_private" "key"

theorem realityExample_inbounds
    (version : CoreVersion) :
    ∀ inbound ∈ (ProfileIr.vlessRealityExample "group_default"
      "sec_reality_private").inbounds,
      RealityInbound (realityContext version) inbound := by
  intro inbound hinbound
  obtain rfl := List.mem_singleton.mp hinbound
  exact ⟨rfl, _, _, _, "key", rfl, rfl⟩

/-- Without the `v` it is refused. -/
theorem reality_gate_iff_plain :
    GateHolds referenceCrates
      (.vlessRealityExample "group_default" "sec_reality_private")
      (realityContext (version175 false)) (version175 false) := by
  refine (reality_gate_iff referenceCrates _ _ (version175 false) rfl
    (realityExample_inbounds _)).mpr ?_
  rw [ReadsRight, if_pos ⟨by simp [ProfileIr.vlessRealityExample], by rfl⟩]
  intro hmarked
  cases hmarked

/-- The version v1.7.5 passes the gate. -/
theorem marked_version_passes_gate :
    ¬ ∀ (crates : Crates) (ir : ProfileIr) (ctx : CompileContext)
      (version : CoreVersion), ctx.coreVersion = version.text →
      (∀ inbound ∈ ir.inbounds, RealityInbound ctx inbound) →
        GateHolds crates ir ctx version := by
  intro h
  have hgate := h referenceCrates
    (.vlessRealityExample "group_default" "sec_reality_private")
    (realityContext (version175 true)) (version175 true) rfl
    (realityExample_inbounds _)
  have hold : TooOld (version175 true).number := by decide
  have hfails := (failsUnsupported_iff (realityExample_inbounds _)).mp
    (hgate.mpr hold)
  have hsupported :
      supportsReality (realityContext (version175 true)).coreVersion = true := by
    decide
  rw [hsupported] at hfails
  cases hfails.2

end ProxyControl
