import AzureCtp.K8gb.Peers
import AzureCtp.Model.Definition

/-!
# NS names

A control plane publishes the NS name of its own k8gb instance, and k8gb on a peer
derives the same name from the peer's zones and the tag it was given. Both are the tag,
the load-balanced zone below the parent zone with its dots made dashes, and the parent
zone.

The two derivations meet when the peer's zones do: the loop over the peers compares the
load-balanced zones, but not the parent zones. Names of different control planes
stay apart unless the dashes inside an id and a zone can be read in two ways.

## Main results

* `nsName_inj`: for one tag the name determines the flattened zone and the parent zone
* `nsNamesAgree_iff`: when every peer derives the published names
* `nsName_collision_iff`: when two control planes publish one name
-/

set_option autoImplicit false

namespace AzureCtp

open Document Joined

/-! ### Names and zones -/

/-- Dots made dashes. -/
def dashed (s : String) : String := String.ofList (s.toList.map fun c => if c = '.' then '-' else c)

theorem dot_notMem_dashed (s : String) : '.' ∉ (dashed s).toList := by
  rw [dashed, String.toList_ofList, List.mem_map]
  rintro ⟨c, -, hc⟩
  split_ifs at hc with hdot
  · cases hc
  · exact hdot hc

theorem dashed_append (s t : String) : dashed (s ++ t) = dashed s ++ dashed t := by
  rw [dashed, String.toList_append, List.map_append, String.ofList_append]
  rfl

/-- The load-balanced zone below the parent zone, dashed. -/
def zoneLabel (dnsZone parentZone : String) : String :=
  dashed (stripSuffix dnsZone ("." ++ parentZone))

theorem nsName_eq (tag dnsZone parentZone : String) :
    nsName tag dnsZone parentZone =
      "gslb-ns-" ++ tag ++ "-" ++ zoneLabel dnsZone parentZone ++ "." ++ parentZone := rfl

theorem stripSuffix_append (s suffix : String) : stripSuffix (s ++ suffix) suffix = s := by
  have hsuffix : suffix.toList.isSuffixOf (s ++ suffix).toList = true := by
    rw [List.isSuffixOf_iff_suffix, String.toList_append]
    exact List.suffix_append _ _
  rw [stripSuffix, if_pos hsuffix, String.toList_append, List.length_append, Nat.add_sub_cancel,
    List.take_left', String.ofList_toList]
  rfl

theorem zoneLabel_append (label parentZone : String) :
    zoneLabel (label ++ "." ++ parentZone) parentZone = dashed label := by
  rw [zoneLabel, String.append_assoc, stripSuffix_append]

/-- For one tag the name determines both zones, the load-balanced one up to its dots. -/
theorem nsName_inj {tag zone zone' parent parent' : String} :
    nsName tag zone parent = nsName tag zone' parent' ↔
      zoneLabel zone parent = zoneLabel zone' parent' ∧ parent = parent' := by
  constructor
  · intro heq
    have hdot : ".".toList = ['.'] := rfl
    have hchars := congrArg String.toList heq
    simp only [nsName_eq, String.toList_append, List.append_assoc, List.append_cancel_left_eq,
      hdot, List.singleton_append] at hchars
    -- the labels have no dots, so the first dot ends them
    obtain ⟨hlabel, hparent⟩ :=
      (append_cons_inj (dot_notMem_dashed _) (dot_notMem_dashed _)).mp hchars
    exact ⟨String.toList_inj.mp hlabel, String.toList_inj.mp hparent⟩
  · rintro ⟨hlabel, rfl⟩
    rw [nsName_eq, nsName_eq, hlabel]

namespace ControlPlane

variable (cp : ControlPlane)

def dnsZone : String := cp.k8gbParam.dnsZone.getD ""

def parentZone : String := cp.k8gbParam.parentZone.getD ""

/-- The zone label of the control plane. -/
def label : String := zoneLabel cp.dnsZone cp.parentZone

/-- The XRD admits the control plane, with k8gb enabled. -/
structure AdmittedWithK8gb : Prop where
  admitted : cp.parameters.admitted = true
  enabled : cp.k8gbParam.enabled = some "yes"

end ControlPlane

variable {cp : ControlPlane}

/-- With k8gb on, the zones pass the validation rule. -/
theorem ControlPlane.AdmittedWithK8gb.zonesValid (h : cp.AdmittedWithK8gb) :
    (cp.k8gbParam.dnsZone.any (· != "") = true ∧ cp.k8gbParam.parentZone.any (· != "") = true) ∧
      subdomain cp.dnsZone cp.parentZone = true := by
  have hvalid : cp.k8gbParam.defaulted.valid = true := by
    have hchecked := (Parameters.checked_of_valid h.admitted).k8gb
    rwa [Parameters.defaulted, k8gb_eq_some h.enabled, Option.map_some, Option.all_some]
      at hchecked
  -- defaults leave the switch and the zones alone
  simp only [K8gb.valid, K8gb.zonesValid, K8gb.defaulted, withDefault, h.enabled,
    Option.getD_some, bne_self_eq_false, Bool.false_or, Bool.and_eq_true] at hvalid
  exact hvalid.2

/-- With k8gb on, an admitted load-balanced zone is given and lies under its parent. -/
theorem ControlPlane.AdmittedWithK8gb.zones (h : cp.AdmittedWithK8gb) :
    cp.OnZone cp.dnsZone ∧ ∃ label, cp.dnsZone = label ++ "." ++ cp.parentZone := by
  obtain ⟨⟨hgiven, -⟩, hsubdomain⟩ := h.zonesValid
  obtain ⟨zone, hzone, -⟩ := (Option.any_eq_true _ _).mp hgiven
  refine ⟨⟨h.enabled, ?_⟩, ?_⟩
  · rw [ControlPlane.dnsZone, hzone, Option.getD_some]
  · obtain ⟨front, hfront⟩ := List.isSuffixOf_iff_suffix.mp hsubdomain
    refine ⟨String.ofList front, String.toList_inj.mp ?_⟩
    rw [← hfront]
    simp

/-- With k8gb on, both admitted zones have a name. -/
theorem ControlPlane.AdmittedWithK8gb.zones_ne (h : cp.AdmittedWithK8gb) :
    cp.dnsZone ≠ "" ∧ cp.parentZone ≠ "" := by
  have hne : ∀ zone : Option String, zone.any (· != "") = true → zone.getD "" ≠ "" := by
    intro zone hzone
    obtain ⟨z, rfl, hz⟩ := (Option.any_eq_true _ _).mp hzone
    exact bne_iff_ne.mp hz
  obtain ⟨⟨hdns, hparent⟩, -⟩ := h.zonesValid
  exact ⟨hne _ hdns, hne _ hparent⟩

/-- Below one parent zone, labels agree when the load-balanced zones do up to dots. -/
theorem label_eq_iff {a b : ControlPlane} (ha : a.AdmittedWithK8gb) (hb : b.AdmittedWithK8gb)
    (hparent : a.parentZone = b.parentZone) :
    a.label = b.label ↔ dashed a.dnsZone = dashed b.dnsZone := by
  obtain ⟨-, labelA, hlabelA⟩ := ha.zones
  obtain ⟨-, labelB, hlabelB⟩ := hb.zones
  rw [ControlPlane.label, ControlPlane.label, hlabelA, hlabelB, zoneLabel_append,
    zoneLabel_append, hparent]
  simp only [dashed_append, String.append_left_inj]

/-! ### What is published -/

/-- `status.controlplane.k8gb.nsName`. -/
def publishedNsName (rsp : Response) : Option String :=
  (rsp.composite.status.bind (·.k8gb)).bind (·.nsName)

variable {now now' : String} {req : Request}

theorem publishedNsName_reconcile (henabled : req.composite.k8gbParam.enabled = some "yes") :
    publishedNsName (reconcile now req) =
      some (nsName req.composite.geoTag req.composite.dnsZone req.composite.parentZone) := by
  have hstatus : publishedNsName (reconcile now req) =
      (k8gbStatus req.k8gb req.k8gbGeoTag req.k8gbPublicIp req.k8gbDeployed
        req.observed).bind (·.nsName) := rfl
  have hk8gb : req.k8gb = some req.composite.k8gbParam := k8gb_eq_some henabled
  have htruthy : K8gb.truthy (some req.composite.k8gbParam) = true := by
    simp [K8gb.truthy, henabled]
  rw [hstatus, hk8gb, k8gbGeoTag_eq henabled]
  simp [k8gbStatus, htruthy, henabled, ControlPlane.dnsZone, ControlPlane.parentZone]

/-! ### Agreement of peers -/

/-- What is known of k8gb: it derives the NS name of a tag from the load-balanced zone
without the parent zone, dashed. -/
def DerivesNsNames (derive : String → String → String → String) : Prop :=
  ∀ tag label parentZone, derive tag (label ++ "." ++ parentZone) parentZone =
    "gslb-ns-" ++ tag ++ "-" ++ dashed label ++ "." ++ parentZone

theorem nsName_derivesNsNames : DerivesNsNames nsName := by
  intro tag label parentZone
  rw [nsName_eq, zoneLabel_append]

variable {derive : String → String → String → String}

/-- On admitted zones k8gb derives what the status block does. -/
theorem DerivesNsNames.eq_nsName (h : DerivesNsNames derive) (hcp : cp.AdmittedWithK8gb)
    (tag : String) :
    derive tag cp.dnsZone cp.parentZone = nsName tag cp.dnsZone cp.parentZone := by
  obtain ⟨-, label, hlabel⟩ := hcp.zones
  rw [hlabel, h, nsName_eq, zoneLabel_append]

/-- The tag is one of the composed comma-separated tags. -/
def ListsTag (rsp : Response) (tag : String) : Prop :=
  ∃ tags, composedGeoTags rsp = some (.str tags) ∧ tag ∈ entries ',' tags

theorem listsTag_iff {zone tag : String} (hon : req.composite.OnZone zone) (htag : tag ≠ "") :
    ListsTag (reconcile now req) tag ↔ ∃ peer ∈ req.allControlPlanes,
      PeerOn zone req.composite peer ∧ tag ∈ entries ',' peer.geoTag := by
  have hcomposed : ListsTag (reconcile now req) tag ↔ tag ∈ entries ','
      (",".intercalate ((peerTags zone req.composite req.allControlPlanes).sort (· ≤ ·))) := by
    simp [ListsTag, composedGeoTags_reconcile hon]
  rw [hcomposed, mem_entries_intercalate rfl htag]
  simp only [Finset.mem_sort, mem_peerTags]
  constructor
  · rintro ⟨_, ⟨peer, hpeer, hpeeron, rfl⟩, hentry⟩
    exact ⟨peer, hpeer, hpeeron, hentry⟩
  · rintro ⟨peer, hpeer, hpeeron, hentry⟩
    exact ⟨peer.geoTag, ⟨peer, hpeer, hpeeron, rfl⟩, hentry⟩

/-- Peers agree on NS names: for a member's tag that another member lists, k8gb derives
there the name the member publishes. -/
def NsNamesAgree (derive : String → String → String → String) (cps : List ControlPlane) : Prop :=
  ∀ now now' a b, ReconciledIn cps a → ReconciledIn cps b →
    ListsTag (reconcile now a) b.composite.geoTag →
    publishedNsName (reconcile now' b) =
      some (derive b.composite.geoTag a.composite.dnsZone a.composite.parentZone)

/-- Wherever a tag is listed through a peer, the zones of its owner are the lister's, the
load-balanced one up to its dots. For tags without a comma the owner shares the peer's
tag. -/
def ZonesAgree (cps : List ControlPlane) : Prop :=
  ∀ a ∈ cps, ∀ b ∈ cps, ∀ peer ∈ cps, PeerOn a.dnsZone a peer →
    b.geoTag ∈ entries ',' peer.geoTag →
    b.parentZone = a.parentZone ∧ dashed b.dnsZone = dashed a.dnsZone

/-- **Agreement on NS names.** Among admitted ControlPlanes with k8gb, the names agree
exactly when the zones do. -/
theorem nsNamesAgree_iff (hderive : DerivesNsNames derive) {cps : List ControlPlane}
    (hcps : ∀ cp ∈ cps, cp.AdmittedWithK8gb) : NsNamesAgree derive cps ↔ ZonesAgree cps := by
  have hname : ∀ a ∈ cps, ∀ b ∈ cps,
      nsName b.geoTag b.dnsZone b.parentZone = derive b.geoTag a.dnsZone a.parentZone ↔
        b.parentZone = a.parentZone ∧ dashed b.dnsZone = dashed a.dnsZone := by
    intro a ha b hb
    rw [hderive.eq_nsName (hcps a ha), nsName_inj, and_comm]
    exact and_congr_right (label_eq_iff (hcps b hb) (hcps a ha))
  constructor
  · intro hagree a ha b hb peer hpeer hpeeron hentry
    have hlists : ListsTag (reconcile "" (memberRequest cps a)) b.geoTag :=
      (listsTag_iff (hcps a ha).zones.1 b.geoTag_ne_empty).mpr ⟨peer, hpeer, hpeeron, hentry⟩
    have hpublished := hagree "" "" _ _ (memberRequest_reconciledIn ha)
      (memberRequest_reconciledIn hb) hlists
    rw [publishedNsName_reconcile (hcps b hb).enabled] at hpublished
    exact (hname a ha b hb).mp (Option.some.inj hpublished)
  · intro hzones now now' a b ha hb hlists
    obtain ⟨peer, hpeer, hpeeron, hentry⟩ :=
      (listsTag_iff (hcps _ ha.member).zones.1 b.composite.geoTag_ne_empty).mp hlists
    rw [ha.served] at hpeer
    rw [publishedNsName_reconcile (hcps _ hb.member).enabled, Option.some_inj]
    exact (hname _ ha.member _ hb.member).mpr
      (hzones _ ha.member _ hb.member peer hpeer hpeeron hentry)

/-- A control plane whose zone is delegated from `example.com`. -/
def fromExample : ControlPlane :=
  k8gbPlane "team-a" "cp-a" "eastus" "gslb.eu.example.com" "example.com"

/-- One with the same load-balanced zone, delegated from `eu.example.com`. -/
def fromEuExample : ControlPlane :=
  k8gbPlane "team-a" "cp-b" "eastus" "gslb.eu.example.com" "eu.example.com"

/-- One that shares both zones. -/
def alsoFromExample : ControlPlane :=
  k8gbPlane "team-b" "cp-c" "eastus" "gslb.eu.example.com" "example.com"

theorem fromExample_admitted : fromExample.AdmittedWithK8gb := ⟨by decide, rfl⟩

theorem fromEuExample_admitted : fromEuExample.AdmittedWithK8gb := ⟨by decide, rfl⟩

theorem alsoFromExample_admitted : alsoFromExample.AdmittedWithK8gb := ⟨by decide, rfl⟩

/-- Two control planes that share both zones derive each other's names. -/
theorem nsNamesAgree_iff_pair : NsNamesAgree nsName [fromExample, alsoFromExample] := by
  refine (nsNamesAgree_iff nsName_derivesNsNames fun cp hcp => ?_).mpr fun a ha b hb _ _ _ _ => ?_
  · rcases List.mem_pair.mp hcp with rfl | rfl
    · exact fromExample_admitted
    · exact alsoFromExample_admitted
  · rcases List.mem_pair.mp ha with rfl | rfl <;> rcases List.mem_pair.mp hb with rfl | rfl <;>
      exact ⟨rfl, rfl⟩

/-- The first of the two lists the tag of the second, and derives another name for it. -/
theorem not_nsNamesAgree_parents :
    DerivesNsNames nsName ∧ (∀ cp ∈ [fromExample, fromEuExample], cp.AdmittedWithK8gb) ∧
      ¬ NsNamesAgree nsName [fromExample, fromEuExample] := by
  refine ⟨nsName_derivesNsNames, fun cp hcp => ?_, fun hagree => ?_⟩
  · rcases List.mem_pair.mp hcp with rfl | rfl
    · exact fromExample_admitted
    · exact fromEuExample_admitted
  · have ha : ReconciledIn [fromExample, fromEuExample] _ :=
      memberRequest_reconciledIn List.mem_cons_self
    have hb : ReconciledIn [fromExample, fromEuExample] _ :=
      memberRequest_reconciledIn (List.mem_cons_of_mem _ List.mem_cons_self)
    have hpeer : PeerOn fromExample.dnsZone fromExample fromEuExample :=
      ⟨by decide, by decide, by decide, by decide⟩
    have hlists : ListsTag (reconcile "2026-03-01T00:00:00Z"
        (memberRequest [fromExample, fromEuExample] fromExample)) fromEuExample.geoTag :=
      (listsTag_iff fromExample_admitted.zones.1 fromEuExample.geoTag_ne_empty).mpr
        ⟨fromEuExample, hb.member, hpeer, by decide⟩
    have hpublished := hagree "2026-03-01T00:00:00Z" "2026-03-01T00:00:00Z" _ _ ha hb hlists
    rw [publishedNsName_reconcile fromEuExample_admitted.enabled] at hpublished
    revert hpublished
    decide

/-! ### Collisions -/

/-- The dash between id and zone label can be read in two ways: the id of the one goes on
where the other's ends, and its label is what is left. -/
def Straddles (a b : ControlPlane) : Prop :=
  ∃ part, b.idVal = a.idVal ++ "-" ++ part ∧ a.label = part ++ "-" ++ b.label

theorem dash_eq_iff {a b : ControlPlane} (hid : a.idVal ≠ b.idVal) :
    a.idVal ++ "-" ++ a.label = b.idVal ++ "-" ++ b.label ↔ Straddles a b ∨ Straddles b a := by
  have hdash : "-".toList = ['-'] := rfl
  -- one reading only, with the shorter id first
  have hreading : ∀ c d : ControlPlane, c.idVal ≠ d.idVal →
      ((∃ part, d.idVal.toList = c.idVal.toList ++ part ∧
        '-' :: c.label.toList = part ++ '-' :: d.label.toList) ↔ Straddles c d) := by
    intro c d hne
    constructor
    · rintro ⟨_ | ⟨dash, part⟩, hids, hlabels⟩
      · rw [List.append_nil] at hids
        exact absurd (String.toList_inj.mp hids.symm) hne
      · rw [List.cons_append, List.cons.injEq] at hlabels
        refine ⟨String.ofList part, String.toList_inj.mp ?_, String.toList_inj.mp ?_⟩
        · simp [hids, hdash, ← hlabels.1]
        · simp [hlabels.2, hdash]
    · rintro ⟨part, hids, hlabels⟩
      exact ⟨'-' :: part.toList, by simp [hids, hdash], by simp [hlabels, hdash]⟩
  rw [← hreading a b hid, ← hreading b a hid.symm, ← String.toList_inj]
  simp only [String.toList_append, hdash, List.append_assoc, List.singleton_append]
  exact List.append_eq_append_iff

/-- Without an explicit tag the tag is derived from location and id. -/
theorem ControlPlane.geoTag_of_implicit (h : cp.k8gbParam.clusterGeoTag.getD "" = "") :
    cp.geoTag = "azure-" ++ cp.parameters.location.getD "" ++ "-" ++ cp.idVal :=
  orElseEmpty_of_empty h

/-- **Collisions of NS names.** Two ControlPlanes with k8gb, different ids, one location,
one parent zone and no explicit tag publish one name exactly when an id and a zone label
can be read in two ways; on one load-balanced zone they never do. -/
theorem nsName_collision_iff {a b : Request} (ha : a.composite.AdmittedWithK8gb)
    (hb : b.composite.AdmittedWithK8gb) (hid : a.composite.idVal ≠ b.composite.idVal)
    (hlocation : a.composite.parameters.location = b.composite.parameters.location)
    (hparent : a.composite.parentZone = b.composite.parentZone)
    (htagA : a.composite.k8gbParam.clusterGeoTag.getD "" = "")
    (htagB : b.composite.k8gbParam.clusterGeoTag.getD "" = "") :
    ∃ nameA nameB, publishedNsName (reconcile now a) = some nameA ∧
      publishedNsName (reconcile now' b) = some nameB ∧
      (nameA = nameB ↔ Straddles a.composite b.composite ∨ Straddles b.composite a.composite) ∧
      (a.composite.dnsZone = b.composite.dnsZone → nameA ≠ nameB) := by
  -- both names are the id and the label between the same texts
  have hname : nsName a.composite.geoTag a.composite.dnsZone a.composite.parentZone =
      nsName b.composite.geoTag b.composite.dnsZone b.composite.parentZone ↔
      a.composite.idVal ++ "-" ++ a.composite.label =
        b.composite.idVal ++ "-" ++ b.composite.label := by
    have hlabelA : zoneLabel a.composite.dnsZone b.composite.parentZone = a.composite.label := by
      rw [← hparent, ControlPlane.label]
    have hlabelB : zoneLabel b.composite.dnsZone b.composite.parentZone = b.composite.label := rfl
    rw [nsName_eq, nsName_eq, ControlPlane.geoTag_of_implicit htagA,
      ControlPlane.geoTag_of_implicit htagB, hlocation, hparent, hlabelA, hlabelB]
    simp only [String.append_assoc, String.append_right_inj]
    simp only [← String.append_assoc, String.append_left_inj]
  refine ⟨_, _, publishedNsName_reconcile ha.enabled, publishedNsName_reconcile hb.enabled,
    hname.trans (dash_eq_iff hid), fun hzone heq => hid ?_⟩
  have hlabel : a.composite.label = b.composite.label :=
    (label_eq_iff ha hb hparent).mpr (by rw [hzone])
  have hids := hname.mp heq
  rw [hlabel, String.append_left_inj, String.append_left_inj] at hids
  exact hids

/-- Two control planes of one load-balanced zone publish different names. -/
theorem nsName_collision_pair :
    publishedNsName (reconcile "2026-03-01T00:00:00Z" (memberRequest [] fromExample)) ≠
      publishedNsName (reconcile "2026-03-01T00:00:00Z" (memberRequest [] alsoFromExample)) := by
  have hnames : ∃ nameA nameB,
      publishedNsName (reconcile "2026-03-01T00:00:00Z" (memberRequest [] fromExample)) =
        some nameA ∧
      publishedNsName (reconcile "2026-03-01T00:00:00Z" (memberRequest [] alsoFromExample)) =
        some nameB ∧ _ ∧ (_ → nameA ≠ nameB) :=
    nsName_collision_iff fromExample_admitted alsoFromExample_admitted (by decide) rfl rfl rfl rfl
  obtain ⟨nameA, nameB, hnameA, hnameB, -, hdiffer⟩ := hnames
  rw [hnameA, hnameB]
  exact fun heq => hdiffer rfl (Option.some.inj heq)

/-- The control plane `a` on `b-c.example.com`. -/
def shortId : ControlPlane := k8gbPlane "team-a" "a" "eastus" "b-c.example.com" "example.com"

/-- The control plane `a-b` on `c.example.com`. -/
def longId : ControlPlane := k8gbPlane "team-a" "a-b" "eastus" "c.example.com" "example.com"

/-- Both publish one name. -/
theorem shortId_longId_collide :
    shortId.AdmittedWithK8gb ∧ longId.AdmittedWithK8gb ∧ shortId.idVal ≠ longId.idVal ∧
      shortId.idVal ≠ "" ∧ longId.idVal ≠ "" ∧
      shortId.parameters.location = longId.parameters.location ∧
      shortId.parentZone = longId.parentZone ∧
      shortId.k8gbParam.clusterGeoTag = none ∧ longId.k8gbParam.clusterGeoTag = none ∧
      publishedNsName (reconcile "2026-03-01T00:00:00Z" (memberRequest [] shortId)) =
        some "gslb-ns-azure-eastus-a-b-c.example.com" ∧
      publishedNsName (reconcile "2026-03-01T00:00:00Z" (memberRequest [] longId)) =
        some "gslb-ns-azure-eastus-a-b-c.example.com" := by
  refine ⟨⟨by decide, rfl⟩, ⟨by decide, rfl⟩, by decide, by decide, by decide, rfl, rfl, rfl, rfl,
    ?_, ?_⟩
  · rw [publishedNsName_reconcile rfl]
    decide
  · rw [publishedNsName_reconcile rfl]
    decide

end AzureCtp
