import Workbench.Proofs.Certificate.Pem
import Workbench.Proofs.Reconcile.Runs
import Workbench.Proofs.TrustBundle.Collect

/-!
# Reading the merged bundle

Each entry that is collected is a file of certificates. They are put together with a line feed
between them, and whoever mounts the bundle reads the whole.

* `isFile_lineFeed`, `isFile_join`: files one after the other, of which all but the last are closed,
  are a file;
* `collect_yields`: each entry that is collected is a file;
* **`publish_readable`**: the bundle that is published is a file, if all its entries but the last are
  closed.
-/

namespace Workbench

open Certificate Workbench.Action Memory

/-! ## Files one after the other -/

namespace Certificate

variable {s t : String}

theorem carried?_lineFeed (h : Pem.isClosed s = true) :
    carried? (s ++ "\n" ++ t) = do return (← carried? s) ++ (← carried? t) := by
  rw [carried?, Pem.blocks?_lineFeed h, carried?, carried?]
  cases Pem.blocks? s with
  | none => rfl
  | some blocks =>
    cases Pem.blocks? t with
    | none => rfl
    | some others =>
      simp

/-- A closed file, a line feed and another file are a file. -/
theorem isFile_lineFeed (h : Pem.isClosed s = true) (hs : isFile s = true) (ht : isFile t = true) :
    isFile (s ++ "\n" ++ t) = true := by
  rw [isFile] at hs ht
  rw [isFile, carried?_lineFeed h]
  cases hfound : carried? s with
  | none => simp [hfound] at hs
  | some found =>
    cases hothers : carried? t with
    | none => simp [hothers] at ht
    | some others =>
      simp only [hfound, hothers, Bool.and_eq_true] at hs ht
      have hne : found ≠ [] := by simpa using hs.1
      change (!(found ++ others).isEmpty && (found ++ others).all isSupported) = true
      simp [hne, List.all_append, hs.2, ht.2]

theorem isFile_join : ∀ {texts : List String}, texts ≠ [] → (∀ s ∈ texts, isFile s = true) →
    (∀ s ∈ texts.dropLast, Pem.isClosed s = true) → isFile (TrustBundle.join texts) = true
  | [], hne, _, _ => absurd rfl hne
  | [s], _, hfiles, _ => hfiles s List.mem_cons_self
  | s :: t :: texts, _, hfiles, hclosed => by
    obtain ⟨hs, hrest⟩ := List.forall_mem_cons.mp hfiles
    rw [List.dropLast_cons_cons] at hclosed
    obtain ⟨hsclosed, hrestclosed⟩ := List.forall_mem_cons.mp hclosed
    rw [TrustBundle.join, String.intercalate_cons_cons]
    exact isFile_lineFeed hsclosed hs (isFile_join (List.cons_ne_nil t texts) hrest hrestclosed)

end Certificate

/-! ## The entries that are collected -/

namespace TrustBundle

variable {ns : Doc}

/-- Each of the entries is a file. -/
def AreFiles (entries : List String) : Prop := ∀ s ∈ entries, isFile s = true

theorem validEntries_areFiles {data : Doc} {keys found : List String}
    (h : validEntries data keys = .ok found) : AreFiles found := by
  induction keys generalizing found with
  | nil =>
    cases h
    exact fun s hs => absurd hs List.not_mem_nil
  | cons key keys ih =>
    rw [validEntries] at h
    obtain ⟨text, -, h⟩ := bind_eq_ok_iff.mp h
    by_cases hempty : text = ""
    · rw [if_pos hempty] at h
      obtain ⟨valid, hvalid, h⟩ := bind_eq_ok_iff.mp h
      cases hvalid
      obtain ⟨rest, hrest, heq⟩ := bind_eq_ok_iff.mp h
      cases heq
      exact ih hrest
    · rw [if_neg hempty] at h
      obtain ⟨valid, hvalid, h⟩ := bind_eq_ok_iff.mp h
      obtain ⟨rest, hrest, heq⟩ := bind_eq_ok_iff.mp h
      cases heq
      cases valid with
      | false => exact ih hrest
      | true =>
        have hfile := accepts_eq_true_iff.mp (mapError_eq_ok_iff.mp hvalid)
        exact List.forall_mem_cons.mpr ⟨hfile, ih hrest⟩

theorem certificates_areFiles {source : Source} {configMap : Doc} {found : List String}
    (h : source.certificates configMap = .ok (some found)) : AreFiles found := by
  obtain ⟨data, -, h⟩ := bind_eq_ok_iff.mp h
  cases hprimary : source.primary? with
  | none =>
    simp only [hprimary] at h
    obtain ⟨found', hvalid, heq⟩ := bind_eq_ok_iff.mp h
    cases heq
    exact validEntries_areFiles hvalid
  | some key =>
    simp only [hprimary] at h
    obtain ⟨text, -, h⟩ := bind_eq_ok_iff.mp h
    split at h
    · cases h
    · obtain ⟨found', hvalid, heq⟩ := bind_eq_ok_iff.mp h
      cases heq
      exact validEntries_areFiles hvalid

theorem collectFrom_yields : ∀ sources : List Source,
    Yields (fun found? => ∀ found ∈ found?, AreFiles found) (collectFrom ns sources)
  | [] => by
    rintro found ⟨⟩
    exact fun s hs => absurd hs List.not_mem_nil
  | source :: rest => by
    have hrest := collectFrom_yields rest
    refine Yields.seq (fun configMap? _ => ?_) (Yields.any _)
    cases configMap? with
    | none =>
      change Yields _ (if _ then _ else _)
      split
      · rintro found ⟨⟩
      · exact hrest
    | some configMap =>
      refine Yields.seq (fun certificates? hcertificates => ?_)
        (Yields.liftM_trouble fun _ h => h)
      cases certificates? with
      | none => rintro found ⟨⟩
      | some found =>
        refine Yields.seq (fun others? hothers => Yields.pure ?_) hrest
        intro all hall
        obtain ⟨others, rfl, rfl⟩ := Option.map_eq_some_iff.mp hall
        exact List.forall_mem_append.mpr
          ⟨certificates_areFiles hcertificates, hothers others rfl⟩

/-- Whatever the cluster answers, each entry that is collected is a file. -/
theorem collect_yields : Yields (fun found? => ∀ found ∈ found?, AreFiles found) (collect ns) :=
  collectFrom_yields sources

/-! ## The bundle that is published -/

variable {m : Memory} {nb : Notebook} {certificates : List String} {name : String}

/-- **The published bundle is a file of certificates**, if every entry but the last is closed. -/
theorem publish_readable (hm : m.Sound) (hns : nb.namespace' = .ok (.str name))
    (hcollect : ((collect name).run Memory.host m).1 = .ok (some certificates))
    (hne : certificates ≠ [])
    (hclosed : ∀ s ∈ certificates.dropLast, Pem.isClosed s = true) :
    accepts (join certificates) = .ok true ∧
      ∃ m', (publish nb).run Memory.host m = (.ok (), m') ∧
        m'.Has (ObjectAt.bundle name) (holds (join certificates) · = true) := by
  have hfiles : AreFiles certificates :=
    collect_yields.of_run (Prod.ext hcollect rfl) certificates rfl
  have hmeta : ∀ d, m.view (ObjectAt.bundle name) = some d → d.HasMetadata :=
    fun d => hm.hasMetadata_of_view (ObjectAt.bundle_plain name)
  obtain ⟨x, m', hrun, hm', -, hout⟩ := publish_out hns hm
  rw [hcollect] at hout
  obtain ⟨rfl, hhas⟩ := has_of_published hm' hmeta hne hout
  exact ⟨accepts_eq_true_iff.mpr (isFile_join hne hfiles hclosed), m', hrun, hhas⟩

/-! ## A file that is not closed -/

/-- A notebook that asks for the bundle of its namespace. -/
def trustingNotebook : Notebook :=
  .obj [("metadata", .obj [("name", "wb"), ("namespace", "ns")])]

/-- A file behind which another block begins, and is not finished. -/
def openFile : String := sampleFile ++ "\n-----BEGIN CERTIFICATE-----"

theorem trustingCluster_sound (second : String) : (trustingCluster second).Sound := by
  refine List.forall_mem_cons.mpr ⟨?_, List.forall_mem_singleton.mpr ?_⟩
  · exact ⟨_, _, _, _, rfl, Address.looseEq_refl _, rfl, rfl, rfl⟩
  · exact ⟨_, _, _, _, rfl, Address.looseEq_refl _, rfl, rfl, rfl⟩

theorem files_of_accepted {texts : List String} (h : ∀ s ∈ texts, isFile s = true) :
    files texts = .ok texts := by
  rw [files_eq_ok fun s hs _ => not_isUnsupported_of_accepts (accepts_eq_true_iff.mpr (h s hs)),
    List.filter_eq_self.mpr h]

set_option maxRecDepth 2000 in
theorem isClosed_sampleFile : Pem.isClosed sampleFile = true := by
  rw [Pem.isClosed, show sampleFile.toList = _ from String.toList_ofList]
  decide +kernel

theorem toList_openFile :
    openFile.toList = sampleFile.toList ++ "\n-----BEGIN CERTIFICATE-----".toList :=
  String.toList_append

set_option maxRecDepth 2000 in
theorem isFile_openFile : isFile openFile = true := by
  rw [isFile, carried?, Pem.blocks?, toList_openFile,
    show sampleFile.toList = _ from String.toList_ofList]
  decide +kernel

set_option maxRecDepth 2000 in
theorem strip_openFile : Text.strip openFile = openFile := by
  refine strip_eq_self ?_
  rw [toList_openFile, show sampleFile.toList = _ from String.toList_ofList]
  decide +kernel

/-- Three closed files are published as one. -/
theorem trustingCluster_readable :
    accepts (join [sampleFile, sampleFile, sampleFile]) = .ok true ∧
      ∃ m', (publish trustingNotebook).run Memory.host (trustingCluster sampleFile) = (.ok (), m') ∧
        m'.Has (ObjectAt.bundle "ns")
          (holds (join [sampleFile, sampleFile, sampleFile]) · = true) := by
  have hcollect := congrArg Prod.fst (trustingCluster_run strip_sampleFile)
  rw [files_of_accepted (by simp [isFile_sampleFile])] at hcollect
  exact publish_readable (trustingCluster_sound sampleFile) rfl hcollect (by simp)
    (by simp [isClosed_sampleFile])

set_option maxRecDepth 2000 in
theorem blocks?_openFile : Pem.blocks? (openFile ++ "\n" ++ sampleFile) = none := by
  refine Option.isNone_iff_eq_none.mp ?_
  rw [Pem.blocks?, String.toList_append, String.toList_append, toList_openFile,
    show sampleFile.toList = _ from String.toList_ofList]
  decide +kernel

/-- **Three files are collected, and what is put together of them is none**: the block that begins at
the end of the second one takes in the block of the third one. -/
theorem open_file_spoils_bundle :
    (collect "ns").run Memory.host (trustingCluster openFile) =
        (.ok (some [sampleFile, openFile, sampleFile]), trustingCluster openFile) ∧
      (∀ s ∈ [sampleFile, openFile, sampleFile], isFile s = true) ∧
      accepts (join [sampleFile, openFile, sampleFile]) = .ok false := by
  have hfiles : ∀ s ∈ [sampleFile, openFile, sampleFile], isFile s = true := by
    simp [isFile_sampleFile, isFile_openFile]
  refine ⟨?_, hfiles, ?_⟩
  · rw [trustingCluster_run strip_openFile, files_of_accepted hfiles]
    rfl
  · have hjoin : join [sampleFile, openFile, sampleFile] =
        sampleFile ++ "\n" ++ (openFile ++ "\n" ++ sampleFile) := by
      rw [join, String.intercalate_cons_cons, String.intercalate_cons_cons,
        String.intercalate_singleton]
    have hnone : carried? (join [sampleFile, openFile, sampleFile]) = none := by
      rw [hjoin, carried?_lineFeed isClosed_sampleFile, carried?, carried?, blocks?_openFile]
      cases Pem.blocks? sampleFile <;> rfl
    rw [accepts_eq, hnone]

end TrustBundle

end Workbench
