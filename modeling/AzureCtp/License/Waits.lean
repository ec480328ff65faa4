import AzureCtp.Invariance.Peers
import AzureCtp.License.Shared
import Mathlib.Data.Set.Finite.Basic

/-!
# Following the reported owners

The message of a license conflict names one ControlPlane. In a settled cluster that one holds
the Secret in question, and it may wait for another one itself. Followed from owner to owner
the messages come to a ControlPlane that has what it requests, or run in a circle, which no
reconcile gets out of. So the messages lead to where a spec has to change.

## Main results

* `exists_waitsFor_or`: a conflict names a live holder of the requested Secret
* `reported_owners_end`: where the chain of the reported owners ends
-/

set_option autoImplicit false

namespace AzureCtp

open Claims Relation

variable {c : List Member} {a b m : Member} {k : String} {req req' : Request}

/-- `b` holds the Secret that `a` requests, and every reconcile of `a` reports `b`. -/
structure WaitsFor (c : List Member) (a b : Member) : Prop where
  mem : b ∈ c
  live : terminating b.xr = false
  other : identity b.xr ≠ identity a.xr
  holds : ∃ k, a.requestedKey = some k ∧ b.heldKey = some k
  reports : ∀ req, UpToDate c a req → req.licenseConflict = joinIdentity b.xr

/-- No reconcile reports a conflict. -/
def Clear (c : List Member) (a : Member) : Prop :=
  ∀ req, UpToDate c a req → req.licenseConflict = ""

/-- Requests that are served one cluster report alike. -/
theorem UpToDate.licenseConflict_congr (hserved : UpToDate c a req) (hserved' : UpToDate c a req') :
    req.licenseConflict = req'.licenseConflict := by
  rw [hserved.licenseConflict_eq, hserved'.licenseConflict_eq]
  exact checkLicenseConflict_congr
    (fun _ => (hserved.peers.trans hserved'.peers.symm).mem_iff) _ _

section Settled

variable (hc : Recorded c) (hsettled : ClaimsSettled c) (ha : a ∈ c)
  (hlive : terminating a.xr = false)

include hsettled ha hlive

/-- In a settled cluster the leader holds the Secret. -/
theorem Leads.holds_of_settled (hb : Leads c k b) (hrequest : a.requestedKey = some k) :
    b.heldKey = some k := by
  rcases hsettled a ha hlive with hheld | ⟨l, hrequest', o, ho, -, holive, hheld⟩
  · rw [hrequest] at hheld
    exact hb.holds ⟨ha, hlive, Or.inl hrequest⟩ hheld
  · -- it waits for a holder, and a leader among holders is one
    obtain rfl := Option.some.inj (hrequest.symm.trans hrequest')
    exact hb.holds ⟨ho, holive, Or.inr hheld⟩ hheld

include hc

/-- Who reports no conflict holds what it requests. -/
theorem Clear.heldKey_eq (hclear : Clear c a) : a.heldKey = a.requestedKey := by
  rcases hsettled a ha hlive with hheld | ⟨k, hrequest, -⟩
  · exact hheld
  · -- without a conflict it leads itself, though somebody else holds the Secret
    have hrequested := upToDate_request ha hlive
    have hleads := (hrequested.licenseConflict_eq_empty_iff hc.distinct hrequest).mp
      (hclear _ hrequested)
    rw [hleads.holds_of_settled hsettled ha hlive hrequest, hrequest]

/-- A conflict names a live holder of the requested Secret. -/
theorem exists_waitsFor_or (hnames : SlashFree c) : Clear c a ∨ ∃ b, WaitsFor c a b := by
  have hserved := upToDate_request ha hlive
  by_cases hconflict : (a.request c).licenseConflict = ""
  · exact Or.inl fun req hreq => (hreq.licenseConflict_congr hserved).trans hconflict
  · obtain ⟨k, hrequest⟩ : ∃ k, a.requestedKey = some k := by
      rw [← Option.isSome_iff_exists, ← Option.ne_none_iff_isSome]
      exact fun hnone => hconflict (hserved.licenseConflict_of_requestedKey_eq_none hnames hnone)
    obtain ⟨b, hb, hother, hreport⟩ := hserved.exists_leader hc.distinct hrequest hconflict
    refine Or.inr ⟨b, hb.mem, hb.live, hother, ⟨k, hrequest, ?_⟩, fun req hreq => ?_⟩
    · exact hb.holds_of_settled hsettled ha hlive hrequest
    · exact (hreq.licenseConflict_congr hserved).trans hreport

end Settled

/-- What a chain of waiting reaches is live. -/
theorem live_of_waitsFor (hm : m ∈ c) (hlive : terminating m.xr = false)
    (hchain : ReflTransGen (WaitsFor c) m a) : a ∈ c ∧ terminating a.xr = false := by
  rcases ReflTransGen.cases_tail hchain with rfl | ⟨b, -, hwaits⟩
  · exact ⟨hm, hlive⟩
  · exact ⟨hwaits.mem, hwaits.live⟩

/-- **Following the reported owners.** In a settled cluster the chain of the owners that are
reported from a ControlPlane on comes to one that holds what it requests and reports no
conflict, or to a circle. -/
theorem reported_owners_end (hc : Recorded c) (hnames : SlashFree c) (hsettled : ClaimsSettled c)
    (hm : m ∈ c) (hlive : terminating m.xr = false) :
    ∃ o ∈ c, terminating o.xr = false ∧ ReflTransGen (WaitsFor c) m o ∧
      ((o.heldKey = o.requestedKey ∧ Clear c o) ∨ TransGen (WaitsFor c) o o) := by
  -- only members are reached, so the chain ends or repeats
  have hfinite : {o | ReflTransGen (WaitsFor c) m o}.Finite :=
    c.finite_toSet.subset fun o hchain => (live_of_waitsFor hm hlive hchain).1
  obtain ⟨o, hchain, hend⟩ := exists_end_or_cycle hfinite
  obtain ⟨ho, holive⟩ := live_of_waitsFor hm hlive hchain
  refine ⟨o, ho, holive, hchain, hend.imp_left fun hlast => ?_⟩
  have hclear : Clear c o := (exists_waitsFor_or hc hsettled ho holive hnames).resolve_right
    fun ⟨b, hwaits⟩ => hlast b hwaits
  exact ⟨hclear.heldKey_eq hc hsettled ho holive, hclear⟩

/-- The older sharer holds the Secret and the newer one waits for it. -/
theorem claimsSettled_sharers : ClaimsSettled [newerSharer, olderSharerApplied] := by
  have hheld : olderSharerApplied.heldKey = some sharedSecret.key := by
    rw [Member.heldKey, olderSharerApplied, Member.apply_statusLicense, secret?_status]
    decide
  have hrequest : newerSharer.requestedKey = some sharedSecret.key ∧
      olderSharerApplied.requestedKey = some sharedSecret.key := by
    decide
  intro m hm _
  simp only [List.mem_cons, List.not_mem_nil, or_false] at hm
  rcases hm with rfl | rfl
  · exact Or.inr ⟨_, hrequest.1, olderSharerApplied, by simp, by decide, rfl, hheld⟩
  · exact Or.inl (hheld.trans hrequest.2.symm)

/-- The message the newer sharer reports leads to the older one, or to a circle. -/
theorem reported_owners_end_sharers :
    ∃ o ∈ [newerSharer, olderSharerApplied], terminating o.xr = false ∧
      ReflTransGen (WaitsFor [newerSharer, olderSharerApplied]) newerSharer o ∧
        ((o.heldKey = o.requestedKey ∧ Clear [newerSharer, olderSharerApplied] o) ∨
          TransGen (WaitsFor [newerSharer, olderSharerApplied]) o o) :=
  reported_owners_end (olderSharer_reconciled.recorded exclusive_sharers.recorded)
    (slashFree_sharers.reconciled exclusive_sharers.recorded olderSharer_reconciled)
    claimsSettled_sharers List.mem_cons_self rfl

end AzureCtp
