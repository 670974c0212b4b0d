import Estate.Partition
import Estate.Proofs.Findings
import Estate.Proofs.Influence.Drafts
import Estate.Proofs.Retention

/-!
The division of a record, and where the keys of an extracted record come from.

The three parts of a record are put together to the record again, and no key is in two of them. What
is left over of an extracted record was declared by the mapping or has a value by default: whatever
is derived, and the lists of pictures and features, have a place in one of the other two parts.
-/

namespace Estate

open Json

/-! ### Parts of keyed lists -/

namespace Keyed

variable {α : Type}

lemma get?_filter (p : String → Bool) (entries : Keyed α) (name : String) :
    get? (entries.filter fun e => p e.1) name = if p name then get? entries name else none := by
  induction entries with
  | nil => simp
  | cons e rest ih =>
    by_cases hkey : p e.1
    · rw [List.filter_cons_of_pos (by simpa using hkey), get?_cons, ih, get?_cons]
      by_cases hname : name = e.1
      · rw [if_pos hname, if_pos hname, hname, if_pos hkey]
      · rw [if_neg hname, if_neg hname]
    · rw [List.filter_cons_of_neg (by simpa using hkey), ih, get?_cons]
      by_cases hname : name = e.1
      · rw [hname, if_neg hkey, if_neg hkey]
      · rw [if_neg hname]

lemma mem_keys_filter {p : String → Bool} {entries : Keyed α} {name : String} :
    name ∈ keys (entries.filter fun e => p e.1) ↔ p name ∧ name ∈ keys entries := by
  rw [keys, keys, ← isSome_get?, ← isSome_get?, get?_filter]
  split <;> simp_all

lemma Ascending.filter {entries : Keyed α} (h : Ascending entries) (p : String × α → Bool) :
    Ascending (entries.filter p) :=
  h.sublist (List.filter_sublist.map _)

/-- Under keys that differ from nothing in some keys only there are no others. -/
lemma AgreeOff.mem_of_mem {keys : List String} {entries : Keyed α}
    (h : AgreeOff keys entries []) {name : String} (hname : name ∈ Keyed.keys entries) :
    name ∈ keys := by
  by_contra hother
  have hsome := (isSome_get? entries name).2 hname
  rw [h name hother] at hsome
  cases hsome

end Keyed

/-! ### Division -/

namespace Partition

/-- The parts hold what is in the record and nothing else, each key in its own part. -/
structure Divides (p : Partition) (record : Members) : Prop where
  asset : ∀ key ∈ Keyed.keys p.asset, key ∈ assetFields
  listing : ∀ key ∈ Keyed.keys p.listing, key ∈ listingFields
  unmapped : ∀ key ∈ Keyed.keys p.unmapped, key ∉ assetFields ∧ key ∉ listingFields
  assetListing : List.Disjoint (Keyed.keys p.asset) (Keyed.keys p.listing)
  assetUnmapped : List.Disjoint (Keyed.keys p.asset) (Keyed.keys p.unmapped)
  listingUnmapped : List.Disjoint (Keyed.keys p.listing) (Keyed.keys p.unmapped)
  entries : (p.asset ++ (p.listing ++ p.unmapped)).Perm record
  value : ∀ key, Keyed.get? record key =
    (Keyed.get? p.asset key).or ((Keyed.get? p.listing key).or (Keyed.get? p.unmapped key))
  union : Keyed.Ascending record →
    (Keyed.Ascending p.asset ∧ Keyed.Ascending p.listing ∧ Keyed.Ascending p.unmapped) ∧
      Keyed.ofList (p.asset ++ (p.listing ++ p.unmapped)) = record

lemma perm_parts (record : Members) :
    ((ofRecord record).asset ++ ((ofRecord record).listing ++ (ofRecord record).unmapped)).Perm
      record := by
  let rest := record.filter fun e => !isAsset e.1
  have hlisting : (ofRecord record).listing = rest.filter fun e => isListing e.1 := by
    rw [ofRecord, List.filter_filter]
    refine List.filter_congr fun e _ => ?_
    cases h : isAsset e.1 <;> simp [isListing, h]
  have hunmapped : (ofRecord record).unmapped = rest.filter fun e => !isListing e.1 := by
    rw [ofRecord, List.filter_filter]
    exact List.filter_congr fun e _ => Bool.and_comm _ _
  have hrest : ((ofRecord record).listing ++ (ofRecord record).unmapped).Perm rest := by
    rw [hlisting, hunmapped]
    exact List.filter_append_perm _ rest
  exact (hrest.append_left _).trans (List.filter_append_perm _ record)

lemma value_parts (record : Members) (key : String) :
    Keyed.get? record key = (Keyed.get? (ofRecord record).asset key).or
      ((Keyed.get? (ofRecord record).listing key).or
        (Keyed.get? (ofRecord record).unmapped key)) := by
  have hasset := Keyed.get?_filter isAsset record key
  have hlisting := Keyed.get?_filter isListing record key
  have hunmapped := Keyed.get?_filter (fun k => !isAsset k && !isListing k) record key
  simp only [ofRecord]
  rw [hasset, hlisting, hunmapped]
  cases ha : isAsset key <;> cases hl : isListing key <;>
    simp_all [isListing]

section

variable {record : Members} {key : String}

lemma mem_keys_asset : key ∈ Keyed.keys (ofRecord record).asset ↔
    key ∈ assetFields ∧ key ∈ Keyed.keys record :=
  (Keyed.mem_keys_filter (p := isAsset)).trans (and_congr_left fun _ => by simp [isAsset])

lemma mem_keys_listing : key ∈ Keyed.keys (ofRecord record).listing ↔
    (key ∉ assetFields ∧ key ∈ listingFields) ∧ key ∈ Keyed.keys record :=
  (Keyed.mem_keys_filter (p := isListing)).trans
    (and_congr_left fun _ => by simp [isListing, isAsset])

lemma mem_keys_unmapped : key ∈ Keyed.keys (ofRecord record).unmapped ↔
    (key ∉ assetFields ∧ key ∉ listingFields) ∧ key ∈ Keyed.keys record := by
  refine (Keyed.mem_keys_filter (p := fun k => !isAsset k && !isListing k)).trans
    (and_congr_left fun _ => ?_)
  by_cases hasset : key ∈ assetFields <;> simp [isListing, isAsset, hasset]

end

lemma divides_ofRecord (record : Members) : (ofRecord record).Divides record where
  asset key h := (mem_keys_asset.1 h).1
  listing key h := (mem_keys_listing.1 h).1.2
  unmapped key h := (mem_keys_unmapped.1 h).1
  assetListing key hasset hlisting :=
    (mem_keys_listing.1 hlisting).1.1 (mem_keys_asset.1 hasset).1
  assetUnmapped key hasset hunmapped :=
    (mem_keys_unmapped.1 hunmapped).1.1 (mem_keys_asset.1 hasset).1
  listingUnmapped key hlisting hunmapped :=
    (mem_keys_unmapped.1 hunmapped).1.2 (mem_keys_listing.1 hlisting).1.2
  entries := perm_parts record
  value := value_parts record
  union h := by
    refine ⟨⟨h.filter _, h.filter _, h.filter _⟩, ?_⟩
    have hperm := perm_parts record
    have hkeys : (((ofRecord record).asset ++ ((ofRecord record).listing ++
        (ofRecord record).unmapped)).map (·.1)).Nodup := (hperm.map _).nodup_iff.2 h.nodup
    rw [Keyed.ofList_perm hperm hkeys, Keyed.ofList_eq_self h]

end Partition

/-! ### Keys of a draft -/

namespace Draft

variable {keys : List String}

lemma foldl_put_within {found : List (Field × Resolution)} (h : ∀ e ∈ found, e.1.name ∈ keys)
    (record : Members) :
    Keyed.AgreeOff keys (found.foldl (fun record e => put record e.1 e.2) record) record := by
  induction found generalizing record with
  | nil => exact .refl keys record
  | cons e found ih =>
    obtain ⟨hname, hrest⟩ := List.forall_mem_cons.1 h
    exact (ih hrest _).trans (put_within hname record e.2)

lemma withDefaults_within {values : Members} (h : ∀ key ∈ Keyed.keys values, key ∈ keys)
    (d : Draft) : AgreeOff keys (d.withDefaults values) d := by
  induction values generalizing d with
  | nil => exact .refl keys d
  | cons e values ih =>
    obtain ⟨hkey, hrest⟩ := List.forall_mem_cons.1 h
    exact (ih hrest _).trans (.withDefault_within hkey d e.2)

lemma withLists_within (hi : imagesKey ∈ keys) (hl : featuresKey ∈ keys) (m : Mapping)
    (found : Findings) (d : Draft) :
    Keyed.AgreeOff keys (d.withLists m found).record d.record := by
  have himages : Keyed.AgreeOff keys (if m.images.isEmpty then d
      else d.putList imagesKey (found.images.map (·.address))).record d.record := by
    split
    · exact .refl keys d.record
    · exact .insert_within hi d.record _
  unfold withLists
  dsimp only
  split
  · exact himages
  · exact (Keyed.AgreeOff.insert_within hl _ _).trans himages

/-- The keys that a mapping gives values to. -/
def writtenKeys (m : Mapping) : List String :=
  m.fields.map (·.name) ++ Keyed.keys m.defaultValues ++ [imagesKey, featuresKey]

lemma ofFindings_within {m : Mapping} {found : Findings}
    (h : ∀ e ∈ found.fields, e.1 ∈ m.fields) :
    Keyed.AgreeOff (writtenKeys m) (ofFindings m found).record [] := by
  have hfields : ∀ e ∈ found.fields, e.1.name ∈ writtenKeys m := fun e he => by
    have hname : e.1.name ∈ m.fields.map (·.name) := List.mem_map_of_mem (h e he)
    simp [writtenKeys, hname]
  have hdefaults : ∀ key ∈ Keyed.keys m.defaultValues, key ∈ writtenKeys m := fun key hkey => by
    simp [writtenKeys, hkey]
  have hlists : Keyed.AgreeOff (writtenKeys m)
      ((ofFields found.fields).withLists m found).record (ofFields found.fields).record :=
    withLists_within (by simp [writtenKeys]) (by simp [writtenKeys]) m found _
  exact (withDefaults_within hdefaults _).record.trans (hlists.trans (foldl_put_within hfields []))

/-! ### Order of keys -/

section

variable {record : Members} {d : Draft}

lemma ascending_put (h : Keyed.Ascending record) (f : Field) (r : Resolution) :
    Keyed.Ascending (put record f r) := by
  unfold put
  split
  · exact h.insert _ _
  · exact h

lemma ascending_foldl_put (h : Keyed.Ascending record) (found : List (Field × Resolution)) :
    Keyed.Ascending (found.foldl (fun record e => put record e.1 e.2) record) := by
  induction found generalizing record with
  | nil => exact h
  | cons e found ih => exact ih (ascending_put h e.1 e.2)

lemma ascending_putList (h : Keyed.Ascending d.record) (key : String) (texts : List String) :
    Keyed.Ascending (d.putList key texts).record := h.insert key _

lemma ascending_withDefault (h : Keyed.Ascending d.record) (key : String) (v : Value) :
    Keyed.Ascending (d.withDefault key v).record := by
  unfold withDefault
  split
  · exact h
  · exact h.insert key v

lemma ascending_withDefaults (h : Keyed.Ascending d.record) (values : Members) :
    Keyed.Ascending (d.withDefaults values).record := by
  induction values generalizing d with
  | nil => exact h
  | cons e values ih => exact ih (ascending_withDefault h e.1 e.2)

end

lemma ascending_ofFindings (m : Mapping) (found : Findings) :
    Keyed.Ascending (ofFindings m found).record := by
  have hnone : Keyed.Ascending ([] : Members) := List.Pairwise.nil
  have hfields : Keyed.Ascending (ofFields found.fields).record := ascending_foldl_put hnone _
  refine ascending_withDefaults ?_ _
  unfold withLists
  dsimp only
  split <;> split
  · exact hfields
  · exact ascending_putList hfields _ _
  · exact ascending_putList hfields _ _
  · exact ascending_putList (ascending_putList hfields _ _) _ _

end Draft

/-! ### Keys that are derived -/

namespace Derivation

/-- The derivation changes what stands under the key, in some record. -/
def Writes (key : String) : Prop :=
  ∃ info address record, Keyed.get? (all info address record) key ≠ Keyed.get? record key

lemma mem_derivedKeys_of_writes {key : String} (h : Writes key) : key ∈ derivedKeys := by
  obtain ⟨info, address, record, hchanged⟩ := h
  by_contra hother
  exact hchanged (agree_all_derived record info address key hother)

/-- All that is derived belongs to the property or to the offer, and so do the lists. -/
lemma not_mem_unmapped (record : Members) {key : String}
    (h : key ∈ Keyed.keys (Partition.ofRecord record).unmapped) :
    key ∉ derivedKeys ∧ key ≠ imagesKey ∧ key ≠ featuresKey := by
  have hmapped : ∀ key ∈ derivedKeys ++ [imagesKey, featuresKey],
      key ∈ Partition.assetFields ∨ key ∈ Partition.listingFields := by decide
  obtain ⟨⟨hasset, hlisting⟩, -⟩ := Partition.mem_keys_unmapped.1 h
  have hother : key ∉ derivedKeys ++ [imagesKey, featuresKey] := fun hmem =>
    (hmapped key hmem).elim hasset hlisting
  simpa only [List.mem_append, not_or, List.mem_cons, List.not_mem_nil, or_false] using hother

lemma ascending_fill {record : Members} (h : Keyed.Ascending record) (key : String)
    (text : Option String) : Keyed.Ascending (fill key text record) := by
  unfold fill
  split
  · exact h
  · split
    · exact h
    · exact h.insert _ _

lemma ascending_all {record : Members} (h : Keyed.Ascending record) (info : PortalInfo)
    (address : String) : Keyed.Ascending (all info address record) := by
  have hprice : Keyed.Ascending (price info record) := by
    unfold price
    dsimp only
    split
    · exact h
    · exact ((h.insert _ _).insert _ _).insert _ _
  have htype : Keyed.Ascending (propertyType (price info record)) := by
    unfold propertyType
    split
    · exact hprice
    · exact (hprice.insert _ _).insert _ _
  have htenure : Keyed.Ascending (tenure address (propertyType (price info record))) :=
    htype.insert _ _
  exact (ascending_fill (ascending_fill (ascending_fill htenure _ _) _ _) _ _).insert _ _

end Derivation

namespace Extraction

variable (p : Page) (m : Mapping) (options : Options)

/-- A key of an extracted record is written by the mapping or derived. -/
lemma mem_keys_ofPage {key : String} (h : key ∈ Keyed.keys (ofPage p m options).record) :
    key ∈ Draft.writtenKeys m ++ Derivation.derivedKeys := by
  rw [ofPage_eq] at h
  have hfields : ∀ e ∈ (Findings.inPage p m options).fields, e.1 ∈ m.fields := by
    simp [Findings.inPage]
  have hdraft := (Draft.ofFindings_within hfields).mono
    (List.subset_append_left _ Derivation.derivedKeys)
  have hderived := (Derivation.agree_all_derived
    (Draft.ofFindings m (.inPage p m options)).record m.portal p.address).mono
      (List.subset_append_right (Draft.writtenKeys m) _)
  exact (hderived.trans hdraft).mem_of_mem h

lemma ascending_ofPage : Keyed.Ascending (ofPage p m options).record := by
  rw [ofPage_eq]
  exact Derivation.ascending_all (Draft.ascending_ofFindings m _) _ _

/-- What is left over of an extracted record has been declared, or has a value by default. -/
lemma declared_of_unmapped {key : String}
    (h : key ∈ Keyed.keys (Partition.ofRecord (ofPage p m options).record).unmapped) :
    key ∈ m.fields.map (·.name) ∨ key ∈ Keyed.keys m.defaultValues := by
  obtain ⟨hderived, himages, hfeatures⟩ := Derivation.not_mem_unmapped _ h
  have hkey := mem_keys_ofPage p m options (Partition.mem_keys_unmapped.1 h).2
  simpa [Draft.writtenKeys, hderived, himages, hfeatures] using hkey

end Extraction

/-- **Nothing is lost by division**: each key of a record is in one part, and the parts together are
the record. What is left over of an extracted record was declared by the mapping or has a value by
default; it is nothing that is derived, and no list of pictures or features. -/
theorem divided_without_loss :
    (∀ record : Members, (Partition.ofRecord record).Divides record) ∧
    ∀ (source address : String) (m : Mapping) (options : Options),
      let record := (Extraction.ofText source address m options).record
      Keyed.Ascending record ∧
      ∀ key ∈ Keyed.keys (Partition.ofRecord record).unmapped,
        (key ∈ m.fields.map (·.name) ∨ key ∈ Keyed.keys m.defaultValues) ∧
          ¬ Derivation.Writes key ∧ key ≠ imagesKey ∧ key ≠ featuresKey := by
  refine ⟨Partition.divides_ofRecord, fun source address m options => ?_⟩
  intro record
  let p := Page.read source address options.flightDepth
  refine ⟨Extraction.ascending_ofPage p m options, fun key hkey => ?_⟩
  obtain ⟨hderived, hlists⟩ := Derivation.not_mem_unmapped record hkey
  exact ⟨Extraction.declared_of_unmapped p m options hkey,
    fun hwrites => hderived (Derivation.mem_derivedKeys_of_writes hwrites), hlists⟩

/-- A field that is never found, and values by default: one that belongs to the offer, one from
which a price is derived, and one that belongs nowhere. -/
def petsByDefault : Mapping :=
  .ofTexts [("virtual_tour", unsetRule)]
    [("pets", .bool true), ("price_string", .string "€ 2"), ("title", .string "Flat")]

theorem divided_without_loss_pets :
    let record := (Extraction.ofText "" "https://example.com/1" petsByDefault .standard).record
    let parts := Partition.ofRecord record
    Keyed.Ascending record ∧
      Keyed.ofList (parts.asset ++ (parts.listing ++ parts.unmapped)) = record ∧
      "pets" ∈ Keyed.keys parts.unmapped ∧
      ("pets" ∈ petsByDefault.fields.map (·.name) ∨
        "pets" ∈ Keyed.keys petsByDefault.defaultValues) ∧
      ¬ Derivation.Writes "pets" := by
  intro record parts
  have hpets : "pets" ∈ Keyed.keys parts.unmapped := by decide +kernel
  obtain ⟨hdivides, hextracted⟩ := divided_without_loss
  obtain ⟨hascending, hkeys⟩ :=
    hextracted "" "https://example.com/1" petsByDefault Options.standard
  obtain ⟨hdeclared, hwrites, -⟩ := hkeys "pets" hpets
  exact ⟨hascending, ((hdivides record).union hascending).2, hpets, hdeclared, hwrites⟩

end Estate
