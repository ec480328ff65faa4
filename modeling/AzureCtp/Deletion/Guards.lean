import AzureCtp.Library.Removal
import AzureCtp.Names

/-!
# What the Usages guard

A Usage refers to its two resources by hand-built names. `guardPair` says which
components are meant: the protected one and its guard. Kind and name identify a composed
resource, so a reference matches the component that is meant and no other.

## Main results

* `protects_iff`: protection in the response is what the Usages are meant for
-/

set_option autoImplicit false

namespace AzureCtp

namespace Component

/-- What a Usage component protects, and the guard that still needs it. -/
def guardPair : Component → Option (Component × Component)
  | usageReleaseAks => some (aks, uxpRelease)
  | usageAksNetwork => some (network, aks)
  | usageEnvoyGatewayAks => some (aks, envoyGatewayRelease)
  | usageEnvoyProxyConfigAks => some (aks, envoyProxyConfig)
  | usageGatewayClassAks => some (aks, gatewayClass)
  | usageK8gbAks => some (aks, k8gbRelease)
  | usageK8gbCorednsAks => some (aks, k8gbCorednsObserve)
  | usageK8gbIpRelease => some (k8gbIp, k8gbRelease)
  | usageK8gbIpRoleRelease => some (k8gbIpRole, k8gbRelease)
  | usageArgocdAks => some (aks, argocdRelease)
  | usageArgocdIssuerAks => some (aks, argocdIssuer)
  | usageArgocdCertAks => some (aks, argocdCert)
  | usageArgocdGatewayAks => some (aks, argocdGateway)
  | usageArgocdHttprouteAks => some (aks, argocdHttproute)
  | usageArgocdAppAks => some (aks, argocdApp)
  | _ => none

end Component

open Component

/-- The `of` reference of a Usage names the resource. -/
structure UsageOf.Names (target : UsageOf) (r : Resource) : Prop where
  apiVersion : target.apiVersion = r.apiVersion
  kind : target.kind = r.kind
  name : target.name = r.metadata.name
  ns : target.ns = r.metadata.ns

/-- The `by` reference of a Usage names the resource. -/
structure UsageBy.Names (user : UsageBy) (r : Resource) : Prop where
  apiVersion : user.apiVersion = r.apiVersion
  kind : user.kind = r.kind
  name : user.name = r.metadata.name

variable {now : String} {req : Request}

/-- A Usage component refers to its pair. -/
theorem usage?_composed (now : String) (req : Request) {u x g : Component}
    (hpair : u.guardPair = some (x, g)) :
    ∃ spec, (u.composed now req).usage? = some spec ∧
      spec.ofResource.Names (x.composed now req) ∧ spec.byResource.Names (g.composed now req) := by
  cases u <;> cases hpair <;> exact ⟨_, rfl, ⟨rfl, rfl, rfl, rfl⟩, ⟨rfl, rfl, rfl⟩⟩

/-- Only Usage components are composed as Usages. -/
theorem usage?_composed_eq_none {u : Component} (hpair : u.guardPair = none) :
    (u.composed now req).usage? = none := by
  cases u <;> first | rfl | cases hpair

/-! ### Protection in the response -/

/-- The resource bound to `g` protects the one bound to `x`: a composed Usage names `x`
as `of` and `g` as `by`. -/
def Protects (rsp : Response) (g x : String) : Prop :=
  ∃ n usage spec target user, rsp.resources.lookup n = some usage ∧ usage.usage? = some spec ∧
    rsp.resources.lookup x = some target ∧ spec.ofResource.Names target ∧
    rsp.resources.lookup g = some user ∧ spec.byResource.Names user

/-- The composed resources other than the Usages. -/
def removable (rsp : Response) : Set String :=
  {n | ∃ r, rsp.resources.lookup n = some r ∧ r.usage? = none}

theorem removable_finite (rsp : Response) : (removable rsp).Finite := by
  refine (List.finite_toSet rsp.resources.keys).subset ?_
  rintro n ⟨r, hr, -⟩
  exact AList.mem_keys.mp (AList.lookup_isSome.mp (by rw [hr]; rfl))

theorem mem_removable_iff (c : Component) :
    c.name ∈ removable (reconcile now req) ↔
      c.gate req.gates = true ∧ c.guardPair = none := by
  constructor
  · rintro ⟨r, hr, husage⟩
    obtain ⟨hgate, rfl⟩ := (lookup_reconcile_component c).mp hr
    refine ⟨hgate, ?_⟩
    by_contra hpair
    obtain ⟨⟨x, g⟩, hpair⟩ := Option.ne_none_iff_exists'.mp hpair
    obtain ⟨spec, hspec, -⟩ := usage?_composed now req hpair
    rw [hspec] at husage
    cases husage
  · rintro ⟨hgate, hpair⟩
    exact ⟨_, (lookup_reconcile_component c).mpr ⟨hgate, rfl⟩, usage?_composed_eq_none hpair⟩

/-- Protection in the response is what the composed Usages are meant for. -/
theorem protects_iff {g x : Component} :
    Protects (reconcile now req) g.name x.name ↔
      ∃ u : Component, u.guardPair = some (x, g) ∧ u.gate req.gates = true ∧
        x.gate req.gates = true ∧ g.gate req.gates = true := by
  constructor
  · rintro ⟨n, usage, spec, target, user, hn, hspec, hx, hof, hg, hby⟩
    obtain ⟨u, hgate, rfl, rfl⟩ := lookup_reconcile_iff.mp hn
    obtain ⟨hxgate, rfl⟩ := (lookup_reconcile_component x).mp hx
    obtain ⟨hggate, rfl⟩ := (lookup_reconcile_component g).mp hg
    have hpair : u.guardPair ≠ none := by
      intro hnone
      rw [usage?_composed_eq_none hnone] at hspec
      cases hspec
    obtain ⟨⟨x', g'⟩, hpair⟩ := Option.ne_none_iff_exists'.mp hpair
    obtain ⟨spec', hspec', hof', hby'⟩ := usage?_composed now req hpair
    obtain rfl : spec = spec' := Option.some.inj (hspec.symm.trans hspec')
    -- the references name the Usage's own pair, and a name has one component
    obtain rfl : x = x' :=
      composed_injective (hof.kind.symm.trans hof'.kind) (hof.name.symm.trans hof'.name)
    obtain rfl : g = g' :=
      composed_injective (hby.kind.symm.trans hby'.kind) (hby.name.symm.trans hby'.name)
    exact ⟨u, hpair, hgate, hxgate, hggate⟩
  · rintro ⟨u, hpair, hgate, hxgate, hggate⟩
    obtain ⟨spec, hspec, hof, hby⟩ := usage?_composed now req hpair
    exact ⟨u.name, _, spec, _, _, (lookup_reconcile_component u).mpr ⟨hgate, rfl⟩, hspec,
      (lookup_reconcile_component x).mpr ⟨hxgate, rfl⟩, hof,
      (lookup_reconcile_component g).mpr ⟨hggate, rfl⟩, hby⟩

end AzureCtp
