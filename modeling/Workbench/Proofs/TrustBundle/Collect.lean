import Workbench.Proofs.Certificate.Accepts
import Workbench.Proofs.Cluster.Memory
import Workbench.Proofs.Cluster.Run
import Workbench.TrustBundle.Publish

/-!
# What is collected

The entries of the sources are looked at in order. An entry that is not a file of certificates is
passed over; one that holds a certificate of a version that is not supported ends everything.

* `TrustBundle.Source.texts`: the entries of a source, as texts;
* `TrustBundle.Source.Provides`: what a cluster answers when a source is looked for;
* `TrustBundle.files`: the files among some texts, as they are picked out;
  `files_eq_ok`, `files_eq_error` say when that succeeds;
* **`collect_ends`**: what is collected from the sources, in terms of their entries.
-/

namespace Workbench.TrustBundle

open Doc Workbench.Action Certificate

/-! ## The files among some texts -/

section Files

variable {texts before after : List String} {text : String} {v : Nat}

/-- The files among some texts, in order. -/
def files : (texts : List String) → Except Trouble (List String)
  | [] => return []
  | text :: texts => do
    let valid ← accepts text
    let rest ← files texts
    return if valid then text :: rest else rest

theorem files_append (texts rest : List String) :
    files (texts ++ rest) = do return (← files texts) ++ (← files rest) := by
  induction texts with
  | nil =>
    rw [List.nil_append, files]
    cases files rest <;> rfl
  | cons text texts ih =>
    rw [List.cons_append, files, files, ih]
    cases accepts text with
    | error e => rfl
    | ok valid =>
      cases files texts with
      | error e => rfl
      | ok found =>
        cases files rest with
        | error e => rfl
        | ok others => cases valid <;> rfl

theorem files_eq_ok (h : ∀ text ∈ texts, ∀ v, ¬ IsUnsupported text v) :
    files texts = .ok (texts.filter isFile) := by
  induction texts with
  | nil => rfl
  | cons text texts ih =>
    obtain ⟨htext, htexts⟩ := List.forall_mem_cons.mp h
    rw [files, accepts_eq_isFile htext, ih htexts, List.filter_cons]
    rfl

/-- The first certificate of another version ends the picking. -/
theorem files_eq_error (hbefore : ∀ text ∈ before, ∀ v, ¬ IsUnsupported text v)
    (htext : IsUnsupported text v) :
    files (before ++ text :: after) = .error (.unsupportedVersion ⟨v⟩) := by
  rw [files_append, files_eq_ok hbefore, files, (accepts_of_isUnsupported htext).1]
  rfl

end Files

/-! ## The entries of a source -/

/-- The entries of a source, as texts. -/
def Source.texts (source : Source) (configMap : Doc) : Except Fault (List String) := do
  let data := (← configMap.read "data").orElse .empty
  source.keys.mapM (entry data)

theorem Source.texts_of_data {source : Source} {configMap : Doc} {ms : List Member}
    (h : configMap.read "data" = .ok (.obj ms)) :
    source.texts configMap = source.keys.mapM (entry (.obj ms)) := by
  rw [Source.texts, h, ok_bind, orElse_empty_obj]

theorem entry_of_read {data : Doc} {key s : String} (h : data.read key = .ok (.str s)) :
    entry data key = .ok (Text.strip s) := by
  rw [entry, h]
  by_cases hs : s = ""
  · subst hs
    rfl
  · have htruthy : (Doc.str s).orElse "" = .str s := if_pos (bne_iff_ne.mpr hs)
    rw [ok_bind, htruthy]
    rfl

theorem validEntries_eq {data : Doc} {keys texts : List String}
    (h : keys.mapM (entry data) = .ok texts) : validEntries data keys = files texts := by
  induction keys generalizing texts with
  | nil =>
    cases h
    rfl
  | cons key keys ih =>
    rw [List.mapM_cons, bind_eq_ok_iff] at h
    obtain ⟨text, htext, h⟩ := h
    obtain ⟨rest, hrest, heq⟩ := bind_eq_ok_iff.mp h
    cases heq
    rw [validEntries, htext, files, ← ih hrest]
    by_cases hempty : text = ""
    · subst hempty
      rfl
    · exact if_neg hempty

theorem platformSource_certificates {configMap : Doc} {texts : List String}
    (h : platformSource.texts configMap = .ok texts) :
    platformSource.certificates configMap =
      if texts.head? = some "" then .ok none else some <$> files texts := by
  obtain ⟨data, hdata, htexts⟩ := bind_eq_ok_iff.mp h
  have hfiles := validEntries_eq htexts
  have hkeys := htexts
  change [bundleKey, "odh-ca-bundle.crt"].mapM (entry (data.orElse .empty)) = .ok texts at hkeys
  rw [List.mapM_cons] at hkeys
  obtain ⟨first, hfirst, hkeys⟩ := bind_eq_ok_iff.mp hkeys
  obtain ⟨rest, -, heq⟩ := bind_eq_ok_iff.mp hkeys
  cases heq
  rw [Source.certificates, hdata, List.head?_cons, ← hfiles]
  change ((liftM (entry (data.orElse .empty) bundleKey) : Except Trouble String) >>= fun text =>
    if text = "" then _ else _) = _
  rw [hfirst]
  by_cases hempty : first = ""
  · subst hempty
    rfl
  · rw [if_neg (by simpa using hempty)]
    exact if_neg hempty

theorem clusterRootSource_certificates {configMap : Doc} {texts : List String}
    (h : clusterRootSource.texts configMap = .ok texts) :
    clusterRootSource.certificates configMap = some <$> files texts := by
  obtain ⟨data, hdata, htexts⟩ := bind_eq_ok_iff.mp h
  rw [Source.certificates, hdata, ← validEntries_eq htexts]
  rfl

/-! ## All sources -/

section Sources

variable {σ : Type} {h : Host σ} {s : σ} {ns : Doc} {platform root : Option (List String)}

/-- A look for a source is answered with these entries, or with nothing when it is not there, and
changes nothing. -/
def Source.Provides (h : Host σ) (s : σ) (ns : Doc) (source : Source) :
    Option (List String) → Prop
  | none => (find? (configMapAt ns source.configMap)).run h s = (.ok none, s)
  | some texts => ∃ configMap,
    (find? (configMapAt ns source.configMap)).run h s = (.ok (some configMap), s) ∧
      source.texts configMap = .ok texts

/-- The platform does not provide certificates, or provides them in another way. -/
def isOff : (platform : Option (List String)) → Bool
  | none => true
  | some texts => texts.head? = some ""

theorem collectFrom_clusterRootSource (hroot : clusterRootSource.Provides h s ns root) :
    (collectFrom ns [clusterRootSource]).run h s = (some <$> files (root.getD []), s) := by
  rw [collectFrom, run_seq]
  cases root with
  | none =>
    rw [hroot]
    rfl
  | some texts =>
    obtain ⟨configMap, hfind, htexts⟩ := hroot
    rw [hfind]
    dsimp only
    rw [run_seq, run_liftM_trouble, clusterRootSource_certificates htexts, Option.getD_some]
    cases files texts with
    | error e => rfl
    | ok found => exact congrArg (fun l => (Except.ok (some l), s)) (List.append_nil found)

theorem collect_run (hplatform : platformSource.Provides h s ns platform)
    (hroot : clusterRootSource.Provides h s ns root) :
    (collect ns).run h s =
      (if isOff platform then .ok none
        else some <$> files (platform.getD [] ++ root.getD []), s) := by
  unfold collect sources
  rw [collectFrom, run_seq]
  cases platform with
  | none =>
    rw [hplatform]
    rfl
  | some texts =>
    obtain ⟨configMap, hfind, htexts⟩ := hplatform
    rw [hfind]
    dsimp only
    rw [run_seq, run_liftM_trouble, platformSource_certificates htexts, isOff]
    by_cases hoff : texts.head? = some ""
    · simp only [hoff, if_true, decide_true]
      rfl
    · simp only [hoff, if_false, decide_false, Option.getD_some]
      rw [files_append]
      cases files texts with
      | error e => rfl
      | ok found =>
        change (collectFrom ns [clusterRootSource] >>= _).run h s = _
        rw [run_seq, collectFrom_clusterRootSource hroot]
        cases files (root.getD []) <;> rfl

/-- **Entries that are not files of certificates are passed over**, as long as none holds a
certificate of a version that is not supported; the first one that does ends the collecting. -/
theorem collect_ends (hplatform : platformSource.Provides h s ns platform)
    (hroot : clusterRootSource.Provides h s ns root) :
    (isOff platform = true → (collect ns).run h s = (.ok none, s)) ∧
      (isOff platform = false →
        ((∀ text ∈ platform.getD [] ++ root.getD [], ∀ v, ¬ IsUnsupported text v) →
          (collect ns).run h s =
            (.ok (some ((platform.getD [] ++ root.getD []).filter isFile)), s)) ∧
        ∀ before text after v, platform.getD [] ++ root.getD [] = before ++ text :: after →
          (∀ other ∈ before, ∀ w, ¬ IsUnsupported other w) → IsUnsupported text v →
            (collect ns).run h s = (.error (.unsupportedVersion ⟨v⟩), s)) := by
  have hrun := collect_run hplatform hroot
  refine ⟨fun hoff => ?_, fun hoff => ⟨fun hall => ?_, ?_⟩⟩
  · rw [hrun, if_pos hoff]
  · rw [hrun, if_neg (Bool.eq_false_iff.mp hoff), files_eq_ok hall]
    rfl
  · intro before text after v hsplit hbefore htext
    rw [hrun, if_neg (Bool.eq_false_iff.mp hoff), hsplit, files_eq_error hbefore htext]
    rfl

end Sources

/-! ## A namespace with certificates in both sources -/

/-- A config map of the namespace, as it is kept. -/
def keptConfigMap (name version : String) (entries : List Member) : Doc :=
  .obj [
    ("kind", "ConfigMap"),
    ("metadata", .obj [
      ("name", name),
      ("namespace", "ns"),
      ("uid", name),
      ("resourceVersion", version)]),
    ("data", .obj entries)]

/-- Both sources have a file. The second entry of the platform is `second`. -/
def trustingCluster (second : String) : Memory where
  objects := [
    (configMapAt "ns" platformConfigMap, keptConfigMap platformConfigMap "1"
      [(bundleKey, sampleFile), ("odh-ca-bundle.crt", second)]),
    (configMapAt "ns" clusterRootConfigMap, keptConfigMap clusterRootConfigMap "2"
      [("ca.crt", sampleFile)])]
  version := 2

theorem trustingCluster_platform {second : String} (h : Text.strip second = second) :
    platformSource.Provides Memory.host (trustingCluster second) "ns"
      (some [sampleFile, second]) := by
  refine ⟨_, rfl, ?_⟩
  rw [Source.texts_of_data rfl, platformSource, List.mapM_cons, List.mapM_cons, List.mapM_nil]
  rw [entry_of_read (s := sampleFile) rfl, entry_of_read (s := second) rfl, h, strip_sampleFile]
  rfl

theorem trustingCluster_clusterRoot (second : String) :
    clusterRootSource.Provides Memory.host (trustingCluster second) "ns" (some [sampleFile]) := by
  refine ⟨_, rfl, ?_⟩
  rw [Source.texts_of_data rfl, clusterRootSource, List.mapM_cons, List.mapM_nil]
  rw [entry_of_read (s := sampleFile) rfl, strip_sampleFile]
  rfl

theorem trustingCluster_run {second : String} (h : Text.strip second = second) :
    (collect "ns").run Memory.host (trustingCluster second) =
      (some <$> files [sampleFile, second, sampleFile], trustingCluster second) := by
  have hon : isOff (some [sampleFile, second]) = false := by simp [isOff, sampleFile]
  rw [collect_run (trustingCluster_platform h) (trustingCluster_clusterRoot second), hon]
  rfl

/-- An entry that says nothing is passed over. -/
theorem trustingCluster_collects :
    (collect "ns").run Memory.host (trustingCluster "none") =
      (.ok (some [sampleFile, sampleFile]), trustingCluster "none") := by
  have hsample := accepts_eq_true_iff.mpr isFile_sampleFile
  have hnone : accepts "none" = .ok false := by decide +kernel
  have hnotFile : isFile "none" = false := by decide +kernel
  have hstrip : Text.strip "none" = "none" := by decide +kernel
  have hon : isOff (some [sampleFile, "none"]) = false := by simp [isOff, sampleFile]
  have hcollect := ((collect_ends (trustingCluster_platform hstrip)
    (trustingCluster_clusterRoot "none")).2 hon).1
  rw [hcollect (by
    simp [not_isUnsupported_of_accepts hsample, not_isUnsupported_of_accepts hnone])]
  simp [isFile_sampleFile, hnotFile]

/-- **A certificate of a version that is not supported ends the collecting**, although the entries
before and after it are files and it could have been passed over. -/
theorem collect_fails_on_version :
    isFile sampleFile = true ∧ isFile unsupportedFile = false ∧
      (collect "ns").run Memory.host (trustingCluster unsupportedFile) =
        (.error (.unsupportedVersion ⟨3⟩), trustingCluster unsupportedFile) := by
  have hsample := accepts_eq_true_iff.mpr isFile_sampleFile
  have hfiles : files ([sampleFile] ++ unsupportedFile :: [sampleFile]) =
      .error (.unsupportedVersion ⟨3⟩) :=
    files_eq_error (by simp [not_isUnsupported_of_accepts hsample]) isUnsupported_unsupportedFile
  refine ⟨isFile_sampleFile, (accepts_of_isUnsupported isUnsupported_unsupportedFile).2, ?_⟩
  rw [trustingCluster_run strip_unsupportedFile, ← List.singleton_append, hfiles]
  rfl

end Workbench.TrustBundle
