import AzureCtp.Deletion.Guards

/-!
# The deletion order the Usages enforce

Removing the composed resources of one response, in any order the Usages permit. The
guards are ranked (releases and child objects below the cluster and the reserved IP,
these below the network), so nothing gets stuck. What must go first is guarded by a
Usage whose gate is open whenever its two ends are composed.

## Main results

* `exists_usage`: every add-on Release and Object guards the AKS XR
* `gate_protected`: what a composed Usage protects is composed
* `Ranked.removed_iff`: what some order removes
* `deletion_order`: the enforced order
-/

set_option autoImplicit false

namespace AzureCtp

open Component Removal

namespace Component

/-- Guards have smaller rank than what they guard. -/
def rank : Component → ℕ
  | network => 2
  | aks | k8gbIp | k8gbIpRole => 1
  | _ => 0

theorem rank_lt {u x g : Component} (hpair : u.guardPair = some (x, g)) : g.rank < x.rank := by
  cases u <;> cases hpair <;> decide

/-- What a composed Usage protects is composed. -/
theorem gate_protected {gates : Gates} {u x g : Component} (hpair : u.guardPair = some (x, g))
    (hgate : u.gate gates = true) : x.gate gates = true := by
  cases u <;> cases hpair <;> first | rfl | exact hgate

/-- The components of the add-ons that run in the workload cluster. -/
def addons : List Component := gatewayComponents ++ k8gbComponents ++ argocdComponents

/-- Every add-on Release and Object guards the AKS XR when it is composed. -/
theorem exists_usage {gates : Gates} {c : Component} (hc : c ∈ addons)
    (hkind : c.kind ∈ ["Release", "Object"]) (hgate : c.gate gates = true) :
    ∃ u : Component, u.guardPair = some (aks, c) ∧ u.gate gates = true := by
  simp only [addons, gatewayComponents, k8gbComponents, argocdComponents, List.cons_append,
    List.nil_append, List.mem_cons, List.not_mem_nil, or_false] at hc
  -- the Usages wait for the spec switch alone, which every add-on waits for too
  rcases hc with rfl | rfl | rfl | rfl | rfl | rfl | rfl | rfl | rfl | rfl | rfl | rfl | rfl
  · exact ⟨usageEnvoyGatewayAks, rfl, hgate⟩
  · exact ⟨usageEnvoyProxyConfigAks, rfl, (Bool.and_eq_true_iff.mp hgate).1⟩
  · exact ⟨usageGatewayClassAks, rfl, (Bool.and_eq_true_iff.mp hgate).1⟩
  · exact absurd hkind (by decide)
  · exact absurd hkind (by decide)
  · exact ⟨usageK8gbAks, rfl, hgate⟩
  · exact ⟨usageK8gbCorednsAks, rfl, hgate⟩
  · exact ⟨usageArgocdAks, rfl, hgate⟩
  · exact ⟨usageArgocdGatewayAks, rfl, (Bool.and_eq_true_iff.mp hgate).1⟩
  · exact ⟨usageArgocdHttprouteAks, rfl, (Bool.and_eq_true_iff.mp hgate).1⟩
  · exact ⟨usageArgocdIssuerAks, rfl, (Bool.and_eq_true_iff.mp hgate).1⟩
  · exact ⟨usageArgocdCertAks, rfl, (Bool.and_eq_true_iff.mp hgate).1⟩
  · exact ⟨usageArgocdAppAks, rfl, (Bool.and_eq_true_iff.mp hgate).1⟩

/-- A Release or an Object is no Usage. -/
theorem guardPair_of_kind {c : Component} (hkind : c.kind ∈ ["Release", "Object"]) :
    c.guardPair = none := by
  revert hkind
  cases c <;> decide

end Component

variable {now : String} {req : Request}

/-- The add-on writes are the gated add-on components. -/
theorem addonWrites_eq :
    req.gatewayWrites now ++ req.k8gbWrites now ++ req.argocdWrites now =
      gated now req addons := by
  rw [addons, gated_append, gated_append, gatewayWrites_eq, k8gbWrites_eq, argocdWrites_eq]

theorem kind_resource (c : Component) : (c.resource now req).kind = c.kind := by
  cases c <;> rfl

/-- The rank of a name. -/
def nameRank (n : String) : ℕ :=
  if n = "network" then 2 else if n ∈ ["aks", "k8gb-ip", "k8gb-ip-role"] then 1 else 0

theorem nameRank_name (c : Component) : nameRank c.name = c.rank := by
  cases c <;> decide

/-- What protects a resource has smaller rank. -/
def Ranked (rsp : Response) : Prop :=
  ∀ g ∈ removable rsp, ∀ x ∈ removable rsp, Protects rsp g x → nameRank g < nameRank x

theorem reconcile_ranked : Ranked (reconcile now req) := by
  rintro g ⟨rg, hrg, -⟩ x ⟨rx, hrx, -⟩ hprotects
  obtain ⟨g, -, rfl, -⟩ := lookup_reconcile_iff.mp hrg
  obtain ⟨x, -, rfl, -⟩ := lookup_reconcile_iff.mp hrx
  obtain ⟨u, hpair, -⟩ := protects_iff.mp hprotects
  rw [nameRank_name, nameRank_name]
  exact rank_lt hpair

/-- The removal orders the Usages of a response permit. -/
def DeletionOrder (rsp : Response) (deletable : String → Prop) (order : List String)
    (left : Set String) : Prop :=
  Order (Protects rsp) deletable (removable rsp) order left

/-- One link of a chain of guards among the composed resources. -/
def GuardLink (rsp : Response) (a b : String) : Prop := a ∈ removable rsp ∧ Protects rsp a b

section Ranked

variable {rsp : Response} {deletable : String → Prop} {order : List String} {left : Set String}

/-- Something that is left is unprotected. -/
theorem Ranked.not_stuck (hranked : Ranked rsp) (h : DeletionOrder rsp deletable order left)
    (hleft : left.Nonempty) : ∃ x, Free (Protects rsp) left x := by
  have hsub : ∀ x ∈ left, x ∈ removable rsp := fun x hx => by
    rw [h.left_eq] at hx
    exact hx.1
  exact exists_free (fun g hg x hx => hranked g (hsub g hg) x (hsub x hx)) hleft

/-- Some order removes a resource exactly when it and everything that guards it,
transitively, is deletable. -/
theorem Ranked.removed_iff (hranked : Ranked rsp) {x : String} (hx : x ∈ removable rsp) :
    (∃ order left, DeletionOrder rsp deletable order left ∧ x ∈ order) ↔
      ∀ g, Relation.ReflTransGen (GuardLink rsp) g x → deletable g :=
  removable_iff (removable_finite rsp) hranked hx

/-- Where everything is deletable some order removes everything. -/
theorem Ranked.exists_complete_deletion (hranked : Ranked rsp) :
    ∃ order, DeletionOrder rsp (fun _ => True) order ∅ ∧ ∀ x, x ∈ order ↔ x ∈ removable rsp :=
  exists_complete_order (removable_finite rsp) hranked fun _ _ => trivial

end Ranked

section Orders

variable {deletable : String → Prop} {order before after : List String} {left : Set String}

/-- A guard is removed before what its Usage protects. -/
theorem removed_before (u x g : Component)
    (h : DeletionOrder (reconcile now req) deletable (before ++ x.name :: after) left)
    (hpair : u.guardPair = some (x, g)) (hu : u.gate req.gates = true)
    (hg : g.gate req.gates = true) (hguard : g.guardPair = none) : g.name ∈ before := by
  have hx : x.name ∈ removable (reconcile now req) :=
    h.mem_of_mem (List.mem_append_right before List.mem_cons_self)
  refine h.guard_before ((mem_removable_iff g).mpr ⟨hg, hguard⟩) ?_
  exact protects_iff.mpr ⟨u, hpair, hu, ((mem_removable_iff x).mp hx).1, hg⟩

theorem uxp_before_aks
    (h : DeletionOrder (reconcile now req) deletable (before ++ "aks" :: after) left) :
    "uxp-release" ∈ before :=
  removed_before .usageReleaseAks .aks .uxpRelease h rfl rfl rfl rfl

theorem addons_before_aks
    (h : DeletionOrder (reconcile now req) deletable (before ++ "aks" :: after) left) {w : Write}
    (hw : w ∈ req.gatewayWrites now ++ req.k8gbWrites now ++ req.argocdWrites now)
    (hkind : w.2.kind ∈ ["Release", "Object"]) : w.1 ∈ before := by
  rw [addonWrites_eq, gated, List.mem_map] at hw
  obtain ⟨c, hc, rfl⟩ := hw
  obtain ⟨hmem, hgate⟩ := List.mem_filter.mp hc
  have hkindc : c.kind ∈ ["Release", "Object"] := kind_resource c ▸ hkind
  obtain ⟨u, hpair, hu⟩ := exists_usage hmem hkindc hgate
  exact removed_before u .aks c h hpair hu hgate (guardPair_of_kind hkindc)

theorem aks_before_network
    (h : DeletionOrder (reconcile now req) deletable (before ++ "network" :: after) left) :
    "aks" ∈ before :=
  removed_before .usageAksNetwork .network .aks h rfl rfl rfl rfl

/-- The k8gb Release goes before its reserved IP and the IP's RoleAssignment. -/
theorem release_before_ip {x : String}
    (h : DeletionOrder (reconcile now req) deletable (before ++ x :: after) left)
    (hx : x ∈ ["k8gb-ip", "k8gb-ip-role"]) : "k8gb-release" ∈ before := by
  have hmem : x ∈ removable (reconcile now req) :=
    h.mem_of_mem (List.mem_append_right before List.mem_cons_self)
  rw [List.mem_cons, List.mem_singleton] at hx
  rcases hx with rfl | rfl
  · have hgate := ((mem_removable_iff .k8gbIp).mp hmem).1
    exact removed_before .usageK8gbIpRelease .k8gbIp .k8gbRelease h rfl hgate hgate rfl
  · have hgate := ((mem_removable_iff .k8gbIpRole).mp hmem).1
    exact removed_before .usageK8gbIpRoleRelease .k8gbIpRole .k8gbRelease h rfl hgate
      (Bool.and_eq_true_iff.mp hgate).1 rfl

end Orders

/-- A composed Usage is a link. -/
theorem guardLink_of_pair (u x g : Component) (hpair : u.guardPair = some (x, g))
    (hu : u.gate req.gates = true) (hg : g.gate req.gates = true) (hguard : g.guardPair = none) :
    GuardLink (reconcile now req) g.name x.name :=
  ⟨(mem_removable_iff g).mpr ⟨hg, hguard⟩,
    protects_iff.mpr ⟨u, hpair, hu, gate_protected hpair hu, hg⟩⟩

/-- A link is a composed Usage. -/
theorem exists_of_guardLink {a b : String} (hlink : GuardLink (reconcile now req) a b) :
    ∃ u x g : Component, g.name = a ∧ u.guardPair = some (x, g) ∧ g.gate req.gates = true := by
  obtain ⟨-, _, _, _, _, _, _, _, hb, -, ha, -⟩ := id hlink
  obtain ⟨g, hgate, rfl, -⟩ := lookup_reconcile_iff.mp ha
  obtain ⟨x, -, rfl, -⟩ := lookup_reconcile_iff.mp hb
  obtain ⟨u, hpair, -⟩ := protects_iff.mp hlink.2
  exact ⟨u, x, g, rfl, hpair, hgate⟩

/-- What a composed Usage protects is composed. -/
theorem protected_composed {n : String} {usage : Resource} {spec : UsageSpec}
    (hn : (reconcile now req).resources.lookup n = some usage) (hspec : usage.usage? = some spec) :
    ∃ m r, (reconcile now req).resources.lookup m = some r ∧ spec.ofResource.Names r := by
  obtain ⟨u, hgate, rfl, rfl⟩ := lookup_reconcile_iff.mp hn
  cases hpair : u.guardPair with
  | none =>
    rw [usage?_composed_eq_none hpair] at hspec
    cases hspec
  | some pair =>
    obtain ⟨spec', hspec', hof, -⟩ := usage?_composed now req hpair
    obtain rfl : spec' = spec := Option.some.inj (hspec'.symm.trans hspec)
    exact ⟨pair.1.name, _,
      (lookup_reconcile_component pair.1).mpr ⟨gate_protected hpair hgate, rfl⟩, hof⟩

/-- **The deletion order.** In every removal order the Usages permit, the UXP Release
and every add-on Release and Object go before the AKS XR, the AKS XR before the
Network XR, and the k8gb Release before its reserved IP and the IP's RoleAssignment.
No order gets stuck, and what a composed Usage protects is composed. -/
theorem deletion_order {order : List String} {left : Set String}
    (h : DeletionOrder (reconcile now req) (fun _ => True) order left) :
    (∀ before after, order = before ++ "aks" :: after →
      "uxp-release" ∈ before ∧
        ∀ w ∈ req.gatewayWrites now ++ req.k8gbWrites now ++ req.argocdWrites now,
          w.2.kind ∈ ["Release", "Object"] → w.1 ∈ before) ∧
    (∀ before after, order = before ++ "network" :: after → "aks" ∈ before) ∧
    (∀ before after x, order = before ++ x :: after → x ∈ ["k8gb-ip", "k8gb-ip-role"] →
      "k8gb-release" ∈ before) ∧
    (left.Nonempty → ∃ x, Free (Protects (reconcile now req)) left x) ∧
    ∀ n usage spec, (reconcile now req).resources.lookup n = some usage →
      usage.usage? = some spec →
        ∃ m r, (reconcile now req).resources.lookup m = some r ∧ spec.ofResource.Names r := by
  refine ⟨?_, ?_, ?_, reconcile_ranked.not_stuck h, fun _ _ _ => protected_composed⟩
  · rintro before after rfl
    exact ⟨uxp_before_aks h, fun w hw => addons_before_aks h hw⟩
  · rintro before after rfl
    exact aks_before_network h
  · rintro before after x rfl
    exact release_before_ip h

/-- Some order removes a control plane with its add-ons, and there they go before the AKS XR,
the AKS XR before the Network XR and the k8gb Release before its reserved IP. -/
theorem deletion_order_equipped :
    ∃ order,
      DeletionOrder (reconcile "2026-03-02T00:00:00Z" (equippedWith awaited)) (fun _ => True)
        order ∅ ∧
      (∃ before after, order = before ++ "aks" :: after ∧
        "k8gb-release" ∈ before ∧ "argocd-app" ∈ before) ∧
      (∃ before after, order = before ++ "network" :: after ∧ "aks" ∈ before) ∧
      ∃ before after, order = before ++ "k8gb-ip" :: after ∧ "k8gb-release" ∈ before := by
  obtain ⟨order, horder, hall⟩ := (reconcile_ranked : Ranked
    (reconcile "2026-03-02T00:00:00Z" (equippedWith awaited))).exists_complete_deletion
  have hsplit : ∀ c : Component, c.gate (equippedWith awaited).gates = true →
      c.guardPair = none → ∃ before after, order = before ++ c.name :: after :=
    fun c hgate hguard => List.append_of_mem ((hall _).mpr ((mem_removable_iff c).mpr
      ⟨hgate, hguard⟩))
  obtain ⟨haks, hnetwork, hip, -⟩ := deletion_order horder
  refine ⟨order, horder, ?_, ?_, ?_⟩
  · obtain ⟨before, after, heq⟩ := hsplit .aks rfl rfl
    -- the add-ons are gated components, and what they wait for is observed
    have hwrite : ∀ c ∈ addons, c.gate (equippedWith awaited).gates = true →
        c.kind ∈ ["Release", "Object"] → c.name ∈ before := by
      intro c hc hgate hkind
      refine (haks before after heq).2 (c.write "2026-03-02T00:00:00Z" (equippedWith awaited)) ?_
        (by rwa [write, kind_resource])
      rw [addonWrites_eq]
      exact List.mem_map_of_mem (List.mem_filter.mpr ⟨hc, hgate⟩)
    exact ⟨before, after, heq, hwrite .k8gbRelease (by decide) (by decide) (by decide),
      hwrite .argocdApp (by decide) (by decide) (by decide)⟩
  · obtain ⟨before, after, heq⟩ := hsplit .network rfl rfl
    exact ⟨before, after, heq, hnetwork before after heq⟩
  · obtain ⟨before, after, heq⟩ := hsplit .k8gbIp (by decide) rfl
    exact ⟨before, after, heq, hip before after "k8gb-ip" heq (by decide)⟩

end AzureCtp
