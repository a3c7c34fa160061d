import Workbench.Certificate.X509

/-!
# Which texts are files of certificates

A text is asked whether it is a file of certificates, and there are three answers: it is one, it is
none, or it holds a certificate of a version that is not supported.

* `Certificate.carried?`: the certificates that a text holds, in order;
* `Certificate.isFile`: each of them is well formed and of a supported version, and there is one;
* `Certificate.IsUnsupported`: the first one that is not like that is well formed and of another
  version;
* **`accepts_cases`**: these are all answers; `accepts_of_isUnsupported` is the last one, and
  `accepts_eq_true_iff` the first.
-/

namespace Workbench.Certificate

open Der

variable {s : String} {data : Octets} {l : List Octets} {v : Nat}

theorem strip_eq_self (h : Text.trim Text.isBlank s.toList = s.toList) : Text.strip s = s := by
  rw [Text.strip, h, String.ofList_toList]

/-! ## Certificates of a text -/

/-- The certificates of a text, in order; none when one of its blocks is malformed. -/
def carried? (s : String) : Option (List Octets) :=
  (Pem.blocks? s).map fun blocks => (blocks.filter (labels.contains ·.label)).map (·.data)

/-- A well formed certificate of a supported version. -/
def isSupported (data : Octets) : Bool := (version? data).any supported

/-- A text is a file of certificates. -/
def isFile (s : String) : Bool :=
  match carried? s with
  | none => false
  | some found => !found.isEmpty && found.all isSupported

/-- The first certificate of a text that a file could not hold is of version `v`. -/
def IsUnsupported (s : String) (v : Nat) : Prop :=
  ∃ before data after, carried? s = some (before ++ data :: after) ∧ before.all isSupported ∧
    version? data = some v ∧ supported v = false

/-! ## The answers -/

theorem allAccepted_cons_of_isSupported (h : isSupported data) :
    allAccepted (data :: l) = allAccepted l := by
  cases hversion : version? data with
  | none => simp [isSupported, hversion] at h
  | some v =>
    have hv : supported v = true := by simpa [isSupported, hversion] using h
    simp only [allAccepted, hversion, hv, if_true]

theorem allAccepted_append (h : l.all isSupported) (rest : List Octets) :
    allAccepted (l ++ rest) = allAccepted rest := by
  induction l with
  | nil => rfl
  | cons data l ih =>
    obtain ⟨hdata, hl⟩ := Bool.and_eq_true_iff.mp h
    rw [List.cons_append, allAccepted_cons_of_isSupported hdata, ih hl]

theorem allAccepted_cases (l : List Octets) :
    (l.all isSupported ∧ allAccepted l = .ok true) ∨
      ∃ before data after, l = before ++ data :: after ∧ before.all isSupported ∧
        ((version? data = none ∧ allAccepted l = .ok false) ∨
          ∃ v, version? data = some v ∧ supported v = false ∧ allAccepted l = .error ⟨v⟩) := by
  induction l with
  | nil => exact .inl ⟨rfl, rfl⟩
  | cons data l ih =>
    by_cases h : isSupported data = true
    · rw [allAccepted_cons_of_isSupported h]
      rcases ih with ⟨hall, heq⟩ | ⟨before, other, after, rfl, hbefore, hrest⟩
      · exact .inl ⟨by rw [List.all_cons, h, hall]; rfl, heq⟩
      · exact .inr ⟨data :: before, other, after, rfl, by rw [List.all_cons, h, hbefore]; rfl, hrest⟩
    · refine .inr ⟨[], data, l, rfl, rfl, ?_⟩
      cases hversion : version? data with
      | none => exact .inl ⟨rfl, by rw [allAccepted, hversion]⟩
      | some v =>
        have hv : supported v = false := by simpa [isSupported, hversion] using h
        exact .inr ⟨v, rfl, hv, by simp [allAccepted, hversion, hv]⟩

theorem accepts_eq (s : String) : accepts s =
    match carried? s with
    | none | some [] => .ok false
    | some (data :: l) => allAccepted (data :: l) := by
  rw [accepts, carried?]
  cases Pem.blocks? s with
  | none => rfl
  | some blocks =>
    simp only [Option.map_some, List.contains_eq_mem]
    cases blocks.filter (·.label ∈ labels) <;> rfl

theorem accepts_of_carried? (h : carried? s = some l) (hl : l ≠ []) :
    accepts s = allAccepted l := by
  rw [accepts_eq, h]
  cases l with
  | nil => exact absurd rfl hl
  | cons data l => rfl

theorem isFile_of_carried? (h : carried? s = some l) (hl : l ≠ []) :
    isFile s = l.all isSupported := by
  rw [isFile, h]
  simp [hl]

/-- A certificate of a version that is not supported is found when none before it is malformed. -/
theorem accepts_of_isUnsupported (h : IsUnsupported s v) :
    accepts s = .error ⟨v⟩ ∧ isFile s = false := by
  obtain ⟨before, data, after, hcarried, hbefore, hversion, hunsupported⟩ := h
  have hne : before ++ data :: after ≠ [] := by simp
  constructor
  · rw [accepts_of_carried? hcarried hne, allAccepted_append hbefore]
    simp [allAccepted, hversion, hunsupported]
  · have hdata : isSupported data = false := by
      rw [isSupported, hversion]
      exact hunsupported
    rw [isFile_of_carried? hcarried hne]
    simp [hdata]

theorem not_isUnsupported_of_accepts {b : Bool} (h : accepts s = .ok b) : ¬ IsUnsupported s v := by
  intro hv
  rw [(accepts_of_isUnsupported hv).1] at h
  cases h

/-- **The three answers**: a text is a file, or none, or holds a certificate of another version. -/
theorem accepts_cases (s : String) :
    accepts s = .ok (isFile s) ∨ ∃ v, IsUnsupported s v := by
  cases hcarried : carried? s with
  | none => exact .inl (by rw [accepts_eq, isFile, hcarried])
  | some found =>
    by_cases hne : found = []
    · subst hne
      exact .inl (by rw [accepts_eq, isFile, hcarried]; rfl)
    rw [accepts_of_carried? hcarried hne, isFile_of_carried? hcarried hne]
    rcases allAccepted_cases found with
      ⟨hall, heq⟩ | ⟨before, data, after, rfl, hbefore, ⟨hnone, heq⟩ | ⟨v, hv, hunsupported, -⟩⟩
    · exact .inl (by rw [heq, hall])
    · have hdata : isSupported data = false := by
        rw [isSupported, hnone]
        rfl
      exact .inl (by rw [heq]; simp [hdata])
    · exact .inr ⟨v, before, data, after, hcarried, hbefore, hv, hunsupported⟩

theorem accepts_eq_isFile (h : ∀ v, ¬ IsUnsupported s v) : accepts s = .ok (isFile s) :=
  (accepts_cases s).resolve_right (not_exists.mpr h)

/-- **A text is accepted when it is a file of certificates.** -/
theorem accepts_eq_true_iff : accepts s = .ok true ↔ isFile s = true := by
  rcases accepts_cases s with h | ⟨v, hv⟩
  · rw [h, Except.ok.injEq]
  · rw [(accepts_of_isUnsupported hv).1, (accepts_of_isUnsupported hv).2]
    simp

/-! ## Small files -/

/-- A file of one certificate, of the third version. -/
def sampleFile : String :=
  "-----BEGIN CERTIFICATE-----\nMHgwZqADAgECAgEFMAoGCCqGSM49BAMCMA0xCzAJBgNVBAMMAmNhMB4XDTI0MDEw\nMTAwMDAwMFoXDTM0MDEwMTAwMDAwMFowDTELMAkGA1UEAwwCY2EwEjAKBggrBgEF\nBQcGJAMEAARhYjAKBggqhkjOPQQDAgMCAHM=\n-----END CERTIFICATE-----"

/-- The same certificate, but of the fourth version. -/
def unsupportedFile : String :=
  "-----BEGIN CERTIFICATE-----\nMHgwZqADAgEDAgEFMAoGCCqGSM49BAMCMA0xCzAJBgNVBAMMAmNhMB4XDTI0MDEw\nMTAwMDAwMFoXDTM0MDEwMTAwMDAwMFowDTELMAkGA1UEAwwCY2EwEjAKBggrBgEF\nBQcGJAMEAARhYjAKBggqhkjOPQQDAgMCAHM=\n-----END CERTIFICATE-----"

-- The characters of a literal are found by unification: to decode them again takes far longer.
set_option maxRecDepth 2000 in
theorem isFile_sampleFile : isFile sampleFile = true := by
  rw [isFile, carried?, Pem.blocks?, show sampleFile.toList = _ from String.toList_ofList]
  decide +kernel

set_option maxRecDepth 2000 in
theorem strip_sampleFile : Text.strip sampleFile = sampleFile := by
  refine strip_eq_self ?_
  rw [show sampleFile.toList = _ from String.toList_ofList]
  decide +kernel

set_option maxRecDepth 2000 in
theorem isUnsupported_unsupportedFile : IsUnsupported unsupportedFile 3 := by
  have hversions : (carried? unsupportedFile).map (·.map version?) = some [some 3] := by
    rw [carried?, Pem.blocks?, show unsupportedFile.toList = _ from String.toList_ofList]
    decide +kernel
  obtain ⟨found, hfound, hversion⟩ := Option.map_eq_some_iff.mp hversions
  obtain ⟨data, rfl, hdata⟩ := List.map_eq_singleton_iff.mp hversion
  exact ⟨[], data, [], hfound, rfl, hdata, rfl⟩

set_option maxRecDepth 2000 in
theorem strip_unsupportedFile : Text.strip unsupportedFile = unsupportedFile := by
  refine strip_eq_self ?_
  rw [show unsupportedFile.toList = _ from String.toList_ofList]
  decide +kernel

end Workbench.Certificate
