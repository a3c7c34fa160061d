import Mathlib.Tactic.Tauto
import Workbench.Proofs.Cluster.Memory
import Workbench.TrustBundle.Publish

/-!
# Where objects are kept

* `ObjectAt`: where a notebook and its objects are kept, and what it shares with others;
* `ObjectAt.own_nodup`: no two of these objects are kept at one address;
* `ObjectAt.kind_of_mem_own`: what is shared is of another kind;
* **`ObjectAt.disjoint_own`**: two notebooks have no address in common.
-/

namespace Workbench

open Doc Memory

namespace ObjectAt

variable (ns name : String)

/-- Where the notebook is kept. -/
def notebook : Address := ⟨notebookKind, ns, name⟩

/-- Where the policy for the notebook's port is kept. -/
def notebookPolicy : Address := ⟨"NetworkPolicy", ns, ObjectName.notebookPolicy name⟩

/-- Where the policy for the port of the sign-in proxy is kept. -/
def oauthPolicy : Address := ⟨"NetworkPolicy", ns, ObjectName.oauthPolicy name⟩

/-- Where the role binding is kept. -/
def roleBinding : Address := ⟨"RoleBinding", ns, ObjectName.roleBinding name⟩

/-- Where the account is kept. -/
def serviceAccount : Address := ⟨"ServiceAccount", ns, name⟩

/-- Where the service of the sign-in proxy is kept. -/
def service : Address := ⟨"Service", ns, ObjectName.service name⟩

/-- Where the secret of the sign-in proxy is kept. -/
def secret : Address := ⟨"Secret", ns, ObjectName.secret name⟩

/-- Where the route is kept. -/
def route : Address := ⟨"Route", ns, name⟩

/-- Where the objects are kept that the sign-in proxy works with. -/
def signIn : List Address :=
  [serviceAccount ns name, service ns name, secret ns name, route ns name]

/-- Where the notebook and everything that belongs to it are kept. -/
def own : List Address := [notebook ns name, notebookPolicy ns name, oauthPolicy ns name,
  roleBinding ns name] ++ signIn ns name

/-- Where the objects are kept that hang off a notebook. -/
def hanging : List Address :=
  [notebookPolicy ns name, oauthPolicy ns name] ++ ([roleBinding ns name] ++ signIn ns name)

theorem own_eq : own ns name = notebook ns name :: hanging ns name := rfl

/-- Where the role for pipelines is kept, which all notebooks of a namespace share. -/
def role : Address := ⟨"Role", ns, pipelineRole⟩

/-- Where the merged bundle is kept, which all notebooks of a namespace share. -/
def bundle : Address := TrustBundle.configMapAt ns bundleConfigMap

theorem notebook_plain : (notebook ns name).IsPlain := ⟨_, _, _, rfl⟩

theorem role_plain : (role ns).IsPlain := ⟨_, _, _, rfl⟩

theorem bundle_plain : (bundle ns).IsPlain := ⟨_, _, _, rfl⟩

theorem signIn_plain : ∀ a ∈ signIn ns name, a.IsPlain := by
  simp only [signIn, List.forall_mem_cons]
  exact ⟨⟨_, _, _, rfl⟩, ⟨_, _, _, rfl⟩, ⟨_, _, _, rfl⟩, ⟨_, _, _, rfl⟩,
    fun a ha => absurd ha List.not_mem_nil⟩

/-! ## Kinds -/

@[simp] theorem kind_notebook : (notebook ns name).kind = "Notebook" := rfl

@[simp] theorem kind_notebookPolicy : (notebookPolicy ns name).kind = "NetworkPolicy" := rfl

@[simp] theorem kind_oauthPolicy : (oauthPolicy ns name).kind = "NetworkPolicy" := rfl

@[simp] theorem kind_roleBinding : (roleBinding ns name).kind = "RoleBinding" := rfl

@[simp] theorem kinds_signIn : (signIn ns name).map Address.kind =
    [.str "ServiceAccount", .str "Service", .str "Secret", .str "Route"] := rfl

@[simp] theorem kind_route : (route ns name).kind = "Route" := rfl

@[simp] theorem kind_role : (role ns).kind = "Role" := rfl

@[simp] theorem kind_bundle : (bundle ns).kind = "ConfigMap" := rfl

/-! ## Addresses that differ -/

variable {ns ns' name name' : String} {a : Address}

theorem not_mem_of_kind {l : List Address} (h : a.kind ∉ l.map Address.kind) : a ∉ l :=
  fun ha => h (List.mem_map_of_mem ha)

theorem policy_name_ne (name name' : String) : name ++ "-ctrl-np" ≠ name' ++ "-oauth-np" := by
  intro h
  have hreverse := congrArg (fun s : String => s.toList.reverse) h
  simp at hreverse

theorem own_nodup (ns name : String) : (own ns name).Nodup := by
  have hpolicies := policy_name_ne name name
  simp [own, signIn, notebook, notebookPolicy, oauthPolicy, roleBinding, serviceAccount, service,
    secret, route, notebookKind, ObjectName.notebookPolicy, ObjectName.oauthPolicy, Doc.display,
    hpolicies]

theorem hanging_nodup (ns name : String) : (hanging ns name).Nodup :=
  (List.nodup_cons.mp (own_nodup ns name)).2

/-- What belongs to a notebook is neither a config map nor a role. -/
theorem kind_of_mem_own (ha : a ∈ own ns name) : a.kind ≠ "ConfigMap" ∧ a.kind ≠ "Role" := by
  have hkind : a.kind ∈ [Doc.str notebookKind, "NetworkPolicy", "NetworkPolicy", "RoleBinding",
    "ServiceAccount", "Service", "Secret", "Route"] := List.mem_map_of_mem ha
  refine ⟨fun h => ?_, fun h => ?_⟩ <;> rw [h] at hkind <;> exact absurd hkind (by decide)

theorem bundle_not_mem_own : bundle ns' ∉ own ns name := fun h => (kind_of_mem_own h).1 rfl

theorem role_not_mem_own : role ns' ∉ own ns name := fun h => (kind_of_mem_own h).2 rfl

theorem role_not_mem_written : role ns' ∉ bundle ns :: own ns name := by
  rw [List.mem_cons, not_or]
  exact ⟨fun h => absurd (congrArg Address.kind h) (by simp), role_not_mem_own⟩

theorem notebook_not_mem_hanging : notebook ns name ∉ hanging ns name :=
  (List.nodup_cons.mp (own_nodup ns name)).1

theorem bundle_not_mem_hanging : bundle ns' ∉ hanging ns name :=
  fun h => bundle_not_mem_own (List.mem_cons_of_mem _ h)

theorem notebook_ne_of_mem_hanging (ha : a ∈ hanging ns name) : notebook ns name ≠ a :=
  fun h => notebook_not_mem_hanging (h ▸ ha)

theorem ne_of_mem_hanging (ha : a ∈ hanging ns name) : a ≠ notebook ns name ∧ a ≠ bundle ns' :=
  ⟨fun h => notebook_not_mem_hanging (h ▸ ha), fun h => bundle_not_mem_hanging (h ▸ ha)⟩

/-- **Two notebooks have no address in common.** -/
theorem disjoint_own (hne : (ns, name) ≠ (ns', name')) (ha : a ∈ own ns name) :
    a ∉ own ns' name' := by
  have hname : ns = ns' → name ≠ name' := fun hns hname => hne (by rw [hns, hname])
  have hpolicies := policy_name_ne name name'
  have hpolicies' := policy_name_ne name' name
  intro ha'
  simp only [own, signIn, List.cons_append, List.nil_append, List.mem_cons, List.not_mem_nil,
    or_false] at ha ha'
  rcases ha with rfl | rfl | rfl | rfl | rfl | rfl | rfl | rfl <;>
    simp [notebook, notebookPolicy, oauthPolicy, roleBinding, serviceAccount, service, secret,
      route, notebookKind, ObjectName.notebookPolicy, ObjectName.oauthPolicy,
      ObjectName.roleBinding, ObjectName.service, ObjectName.secret, Doc.display] at ha' <;>
    tauto

end ObjectAt

end Workbench
