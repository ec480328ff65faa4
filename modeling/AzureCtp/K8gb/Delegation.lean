import AzureCtp.K8gb.Names
import AzureCtp.Library.Records

/-!
# The delegation contract

What FleetGslb reads from `status.controlplane.k8gb` to delegate the load-balanced zone:
the NS name, the glue addresses and the delegation record. Glue and record are published
together, once CoreDNS answers on the reserved address. The record is put together from
strings, and it is read back as the records it stands for when none of these strings is
broken by white space. The zones and the tag come from the control plane; the address is
the one that the observed PublicIP reports, and nothing checks it.

## Main results

* `delegation_cases`: the published status, by whether the address serves
* `delegation_contract`: the contract, and when the record reads back
-/

set_option autoImplicit false

namespace AzureCtp

open Records

/-- `status.controlplane.k8gb` of a response. -/
def Response.k8gbStatus? (rsp : Response) : Option K8gbStatus :=
  rsp.composite.status.bind (·.k8gb)

namespace Request

variable (req : Request)

/-- The address the observed PublicIP reports. -/
def publicIpAddress : String := extractK8gbPublicIp req.observed

/-- The k8gb Release is deployed and CoreDNS answers on the reserved address. -/
structure AddressServes : Prop where
  enabled : req.k8gbEnabled = true
  deployed : req.k8gbDeployed = true
  reserved : req.publicIpAddress ≠ ""
  endpoint : extractCorednsEndpoint req.observed = req.publicIpAddress

/-- The NS name the request publishes. -/
def nsName : String :=
  AzureCtp.nsName req.k8gbGeoTag req.composite.dnsZone req.composite.parentZone

/-- The zones and the geo tag contain no white space. -/
structure NamesUnbroken : Prop where
  dnsZone : Unbroken req.composite.dnsZone
  parentZone : Unbroken req.composite.parentZone
  geoTag : Unbroken req.k8gbGeoTag

end Request

/-- The NS record that delegates a zone. -/
def nsRecord (zone name : String) : Record := ⟨zone ++ ".", "30", "IN", "NS", name ++ "."⟩

/-- The A record of a glue address. -/
def glueRecord (name address : String) : Record := ⟨name ++ ".", "30", "IN", "A", address⟩

/-- Glue and record are published together, only for an address that serves, and with an NS
name strictly under the parent zone. -/
structure Delegates (req : Request) (status : K8gbStatus) : Prop where
  together : status.glueAddresses.isSome = status.delegationRecord.isSome
  serving : status.glueAddresses.isSome = true → req.AddressServes
  glue : ∀ glue, status.glueAddresses = some glue → glue = [req.publicIpAddress]
  name : status.glueAddresses.isSome = true → ∃ label, label ≠ "" ∧
    status.nsName = some (label ++ "." ++ req.composite.parentZone)

/-- The published text is read as one NS record and one A record for each glue address. -/
def ReadsBack (req : Request) (status : K8gbStatus) : Prop :=
  ∀ name glue text, status.nsName = some name → status.glueAddresses = some glue →
    status.delegationRecord = some text →
      records? text = some (nsRecord req.composite.dnsZone name :: glue.map (glueRecord name))

variable {now : String} {req : Request} {status : K8gbStatus}

theorem k8gbEnabled_eq (req : Request) :
    req.k8gbEnabled = ((req.k8gb.getD {}).enabled == some "yes") := by
  unfold Request.k8gbEnabled
  cases req.k8gb <;> rfl

/-- The text of the delegation record. -/
def Request.delegationText (req : Request) : String :=
  "\n".intercalate
    [req.composite.dnsZone ++ ". 30 IN NS " ++ req.nsName ++ ".",
     req.nsName ++ ". 30 IN A " ++ req.publicIpAddress]

/-- The status delegates to the address. -/
structure DelegatesTo (req : Request) (status : K8gbStatus) : Prop where
  name : status.nsName = some req.nsName
  glue : status.glueAddresses = some [req.publicIpAddress]
  record : status.delegationRecord = some req.delegationText

/-- An address that serves is published. -/
theorem delegatesTo_of_serves (hserves : req.AddressServes) :
    ∃ status, (reconcile now req).k8gbStatus? = some status ∧ DelegatesTo req status := by
  have haddress : req.k8gbPublicIp = req.publicIpAddress := if_pos hserves.enabled
  have hserving : req.publicIpAddress ≠ "" ∧ req.k8gbDeployed = true ∧
      extractCorednsEndpoint req.observed = req.publicIpAddress :=
    ⟨hserves.reserved, hserves.deployed, hserves.endpoint⟩
  have htruthy : K8gb.truthy req.k8gb = true := by
    have henabled := hserves.enabled
    unfold Request.k8gbEnabled at henabled
    cases hk8gb : req.k8gb with
    | none => simp [hk8gb] at henabled
    | some k8gb =>
      rw [hk8gb, Option.any_some, beq_iff_eq] at henabled
      simp [K8gb.truthy, henabled]
  change ∃ status, k8gbStatus req.k8gb req.k8gbGeoTag req.k8gbPublicIp req.k8gbDeployed
    req.observed = some status ∧ _
  simp only [k8gbStatus, htruthy, ← k8gbEnabled_eq, hserves.enabled, haddress, if_pos hserving]
  exact ⟨_, rfl, rfl, rfl, rfl⟩

/-- A published status delegates to an address that serves or does not delegate. -/
theorem delegation_cases (hstatus : (reconcile now req).k8gbStatus? = some status) :
    (status.glueAddresses = none ∧ status.delegationRecord = none) ∨
      (req.AddressServes ∧ DelegatesTo req status) := by
  by_cases hserves : req.AddressServes
  · obtain ⟨published, hpublished, hdelegates⟩ : ∃ published,
        (reconcile now req).k8gbStatus? = some published ∧ DelegatesTo req published :=
      delegatesTo_of_serves hserves
    rw [hpublished, Option.some_inj] at hstatus
    exact Or.inr ⟨hserves, hstatus ▸ hdelegates⟩
  · -- the block is there for k8gb switched off as well
    left
    change k8gbStatus req.k8gb req.k8gbGeoTag req.k8gbPublicIp req.k8gbDeployed req.observed =
      some status at hstatus
    unfold k8gbStatus at hstatus
    split_ifs at hstatus
    by_cases henabled : req.k8gbEnabled = true
    · have haddress : req.k8gbPublicIp = req.publicIpAddress := if_pos henabled
      have hnot : ¬ (req.publicIpAddress ≠ "" ∧ req.k8gbDeployed = true ∧
          extractCorednsEndpoint req.observed = req.publicIpAddress) :=
        fun h => hserves ⟨henabled, h.2.1, h.1, h.2.2⟩
      simp only [← k8gbEnabled_eq, if_pos henabled, haddress, if_neg hnot] at hstatus
      cases hstatus
      exact ⟨rfl, rfl⟩
    · simp only [← k8gbEnabled_eq, if_neg henabled] at hstatus
      cases hstatus
      exact ⟨rfl, rfl⟩

/-- The NS name lies strictly under the parent zone. -/
theorem nsName_under (tag dnsZone parentZone : String) :
    ∃ label, label ≠ "" ∧ nsName tag dnsZone parentZone = label ++ "." ++ parentZone := by
  refine ⟨"gslb-ns-" ++ tag ++ "-" ++ zoneLabel dnsZone parentZone, ?_, nsName_eq _ _ _⟩
  intro hempty
  have hchars := congrArg String.toList hempty
  simp at hchars

theorem delegates_of_status (hstatus : (reconcile now req).k8gbStatus? = some status) :
    Delegates req status := by
  rcases delegation_cases hstatus with ⟨hglue, hrecord⟩ | ⟨hserves, hname, hglue, hrecord⟩
  · exact ⟨by simp [hglue, hrecord], by simp [hglue], by simp [hglue], by simp [hglue]⟩
  · refine ⟨by simp [hglue, hrecord], fun _ => hserves, fun glue hsome => ?_, fun _ => ?_⟩
    · rw [hglue] at hsome
      exact (Option.some.inj hsome).symm
    · obtain ⟨label, hne, hunder⟩ :=
        nsName_under req.k8gbGeoTag req.composite.dnsZone req.composite.parentZone
      exact ⟨label, hne, by rw [hname, Request.nsName, hunder]⟩

/-! ### Reading the record back -/

theorem unbroken_stripSuffix {zone : String} (hzone : Unbroken zone) (suffix : String) :
    Unbroken (stripSuffix zone suffix) := by
  unfold stripSuffix
  split_ifs
  · rw [Unbroken, String.toList_ofList]
    exact fun c hc => hzone c (List.mem_of_mem_take hc)
  · exact hzone

theorem unbroken_dashed {s : String} (hs : Unbroken s) : Unbroken (dashed s) := by
  rw [Unbroken, dashed, String.toList_ofList, List.forall_mem_map]
  intro c hc
  split_ifs
  · rfl
  · exact hs c hc

theorem Request.NamesUnbroken.nsName (h : req.NamesUnbroken) : Unbroken req.nsName := by
  have hlabel := unbroken_dashed (unbroken_stripSuffix h.dnsZone ("." ++ req.composite.parentZone))
  rw [Request.nsName, nsName_eq]
  simp only [unbroken_append]
  exact ⟨⟨⟨⟨⟨by decide, h.geoTag⟩, by decide⟩, hlabel⟩, by decide⟩, h.parentZone⟩

/-- A name with the final dot is a word. -/
theorem isWord_rooted {name : String} (hname : Unbroken name) : IsWord (name ++ ".") := by
  refine ⟨fun hempty => ?_, unbroken_append.mpr ⟨hname, by decide⟩⟩
  have hchars := congrArg String.toList hempty
  simp at hchars

theorem line_nsRecord (zone name : String) :
    (nsRecord zone name).line = zone ++ ". 30 IN NS " ++ name ++ "." := by
  rw [← String.toList_inj]
  simp [nsRecord, Record.line, Record.fields]

theorem line_glueRecord (name address : String) :
    (glueRecord name address).line = name ++ ". 30 IN A " ++ address := by
  rw [← String.toList_inj]
  simp [glueRecord, Record.line, Record.fields]

theorem clean_nsRecord {zone name : String} (hzone : Unbroken zone) (hname : Unbroken name) :
    (nsRecord zone name).Clean := by
  simp only [Record.Clean, Record.fields, nsRecord, List.forall_mem_cons]
  exact ⟨isWord_rooted hzone, by decide, by decide, by decide, isWord_rooted hname, by simp⟩

theorem clean_glueRecord {name address : String} (hname : Unbroken name)
    (haddress : IsWord address) : (glueRecord name address).Clean := by
  simp only [Record.Clean, Record.fields, glueRecord, List.forall_mem_cons]
  exact ⟨isWord_rooted hname, by decide, by decide, by decide, haddress, by simp⟩

/-- The text reads back exactly if the address is a word. -/
theorem records?_delegationText (hnames : req.NamesUnbroken)
    (hreserved : req.publicIpAddress ≠ "") :
    records? req.delegationText =
        some [nsRecord req.composite.dnsZone req.nsName,
          glueRecord req.nsName req.publicIpAddress] ↔
      Unbroken req.publicIpAddress := by
  constructor
  · intro hread
    have hclean := clean_of_records? hread _ (List.mem_cons_of_mem _ List.mem_cons_self)
    exact (hclean req.publicIpAddress (by simp [Record.fields, glueRecord])).2
  · intro haddress
    have hclean : ∀ r ∈ [nsRecord req.composite.dnsZone req.nsName,
        glueRecord req.nsName req.publicIpAddress], r.Clean := by
      rw [List.forall_mem_cons, List.forall_mem_singleton]
      exact ⟨clean_nsRecord hnames.dnsZone hnames.nsName,
        clean_glueRecord hnames.nsName ⟨hreserved, haddress⟩⟩
    have hread := records?_text (List.cons_ne_nil _ _) hclean
    rw [List.map_cons, List.map_singleton, line_nsRecord, line_glueRecord] at hread
    exact hread

/-- What is published reads back if its text does. -/
theorem DelegatesTo.readsBack_iff (h : DelegatesTo req status) :
    ReadsBack req status ↔
      records? req.delegationText =
        some [nsRecord req.composite.dnsZone req.nsName,
          glueRecord req.nsName req.publicIpAddress] := by
  constructor
  · intro hread
    exact hread _ _ _ h.name h.glue h.record
  · intro hread name glue text hname hglue hrecord
    rw [h.name, Option.some_inj] at hname
    rw [h.glue, Option.some_inj] at hglue
    rw [h.record, Option.some_inj] at hrecord
    subst hname hglue hrecord
    exact hread

/-- **The delegation contract.** With unbroken names the record that is published reads
back exactly if the address is unbroken too. -/
theorem delegation_contract (hstatus : (reconcile now req).k8gbStatus? = some status)
    (hnames : req.NamesUnbroken) :
    Delegates req status ∧
      (ReadsBack req status ↔
        (status.glueAddresses.isSome = true → Unbroken req.publicIpAddress)) := by
  refine ⟨delegates_of_status hstatus, ?_⟩
  rcases delegation_cases hstatus with ⟨hglue, -⟩ | ⟨hserves, hdelegates⟩
  · simp [ReadsBack, hglue]
  · rw [hdelegates.readsBack_iff, records?_delegationText hnames hserves.reserved, hdelegates.glue]
    simp

/-- A control plane with k8gb whose CoreDNS answers on the reserved address. -/
def serving (address : String) : Request where
  composite :=
    { parameters :=
        { Parameters.required "cp" "eastus" { count := some 3 } with
          k8gb := some
            { enabled := some "yes"
              dnsZone := some "gslb.example.com"
              parentZone := some "example.com" } } }
  observed :=
    let config : Config := ⟨"2026-03-01T00:00:00Z", "default", "Full"⟩
    (((∅ : Observed).insert "k8gb-ip"
      ((k8gbPublicIp "cp" "eastus" "default" config).observedWith
        { atProvider := { ipAddress := some address } })).insert "k8gb-coredns-observe"
      ((corednsObserve "cp" config).observedWith
        { atProvider := { manifest := { ingress := [⟨some address, none⟩] } } })).insert
      "k8gb-release" ((k8gbRelease "cp" (.dict []) true config).observedWith .deployed)

theorem serving_addressServes {address : String} (hne : address ≠ "") :
    (serving address).AddressServes where
  enabled := rfl
  deployed := by rfl
  reserved := hne
  endpoint := if_neg hne

theorem serving_namesUnbroken (address : String) : (serving address).NamesUnbroken where
  dnsZone := by
    change Unbroken "gslb.example.com"
    decide
  parentZone := by
    change Unbroken "example.com"
    decide
  geoTag := by
    change Unbroken "azure-eastus-cp"
    decide

/-- The record of an ordinary address reads back. -/
theorem delegation_contract_address :
    ∃ status, (reconcile "2026-03-02T00:00:00Z" (serving "20.9.9.9")).k8gbStatus? = some status ∧
      ReadsBack (serving "20.9.9.9") status := by
  obtain ⟨status, hstatus, -⟩ :=
    delegatesTo_of_serves (serving_addressServes (by decide : "20.9.9.9" ≠ ""))
  refine ⟨status, hstatus, ?_⟩
  have haddress : Unbroken (serving "20.9.9.9").publicIpAddress := by
    change Unbroken "20.9.9.9"
    decide
  exact (delegation_contract hstatus (serving_namesUnbroken _)).2.mpr fun _ => haddress

/-- An address with a blank is published, in a record that does not read back. -/
theorem not_readsBack_broken :
    (serving "20.9.9.9 20.9.9.8").params.admitted = true ∧
      (serving "20.9.9.9 20.9.9.8").NamesUnbroken ∧
      ∃ status,
        (reconcile "2026-03-02T00:00:00Z" (serving "20.9.9.9 20.9.9.8")).k8gbStatus? =
            some status ∧
          ¬ ReadsBack (serving "20.9.9.9 20.9.9.8") status := by
  have hserves := serving_addressServes (by decide : "20.9.9.9 20.9.9.8" ≠ "")
  have hnames := serving_namesUnbroken "20.9.9.9 20.9.9.8"
  obtain ⟨status, hstatus, hdelegates⟩ := delegatesTo_of_serves hserves
  refine ⟨by decide, hnames, status, hstatus, fun hread => ?_⟩
  have haddress : Unbroken "20.9.9.9 20.9.9.8" :=
    (records?_delegationText hnames hserves.reserved).mp (hdelegates.readsBack_iff.mp hread)
  revert haddress
  decide

end AzureCtp
