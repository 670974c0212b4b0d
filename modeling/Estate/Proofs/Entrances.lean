import Estate.Proofs.CacheHistory
import Estate.Proofs.Json.Accepted
import Estate.Proofs.Json.Readers
import Estate.Proofs.Lenient.Agreement
import Estate.Proofs.Text.Bytes
import Estate.Request

/-!
An extraction can be asked for by a request that carries its mapping, or in a session by the name of
a file that holds the mapping. Both come to the same.
-/

namespace Estate

open Json

/-! ### Zero characters -/

namespace Json

lemma Scan.start_zero (s : Scan) : s.start '\x00' = none := rfl

/-- No text with a zero character is read. -/
lemma Scan.step_zero (s : Scan) : s.step '\x00' = none := by
  obtain ⟨acc, mode⟩ := s
  cases mode with
  | number read => exact Option.bind_eq_none_iff.2 fun s _ => s.start_zero
  | word read => exact Option.bind_eq_none_iff.2 fun s _ => s.start_zero
  | _ => rfl

lemma zero_not_mem_of_tokens? {cs : List Char} {ts : List Token} (h : tokens? cs = some ts) :
    '\x00' ∉ cs := by
  intro hzero
  obtain ⟨before, behind, rfl⟩ := List.append_of_mem hzero
  rw [tokens?, List.foldlM_append] at h
  simp only [List.foldlM_cons, Scan.step_zero] at h
  cases hread : before.foldlM Scan.step ⟨[], .gap⟩ <;> simp [hread] at h

lemma zero_not_mem_escape (c : Char) : '\x00' ∉ escape c := by
  unfold escape
  split
  case h_8 =>
    split
    · next hlt =>
      have hdigit : ∀ n < 16, hexDigit n ≠ '\x00' := by decide
      have hhigh := hdigit (c.toNat / 16) (by omega)
      have hlow := hdigit (c.toNat % 16) (by omega)
      simp [hhigh.symm, hlow.symm]
    · next hge =>
      intro hzero
      obtain rfl := List.mem_singleton.1 hzero
      exact hge (by decide)
  all_goals decide

lemma zero_not_mem_print (t : Token) : '\x00' ∉ t.print := by
  cases t with
  | bool b => cases b <;> decide
  | number n =>
    cases n with
    | none => exact List.not_mem_nil
    | some n => exact fun hzero => absurd (n.bare_render.2 _ hzero) (by decide)
  | text s =>
    cases s with
    | none => exact List.not_mem_nil
    | some s =>
      have hescape : '\x00' ∉ s.toList.flatMap escape := fun hzero => by
        obtain ⟨c, -, hc⟩ := List.mem_flatMap.1 hzero
        exact zero_not_mem_escape c hc
      simp [Token.print, quote, hescape]
  | _ => decide

lemma Value.zero_not_mem_toText (v : Value) : '\x00' ∉ v.toText.toList := by
  rw [toText, String.toList_ofList, ← v.flatten_tokens, List.mem_flatten]
  rintro ⟨w, hw, hzero⟩
  obtain ⟨t, -, rfl⟩ := List.mem_map.1 hw
  exact zero_not_mem_print t hzero

end Json

/-! ### Texts of values -/

namespace Json

/-- The token is no float and no integer out of range. -/
def Token.isWhole : Token → Bool
  | .number (some (.int n)) => -2 ^ 63 ≤ n && n < 2 ^ 64
  | .number _ => false
  | _ => true

/-- The compact text of a value is a serialisation of it, if the keys ascend and there are no floats
in it. -/
lemma Value.serialises_toText {v : Value} (hsorted : v.isSorted)
    (hdepth : (Term.ofValue v).depth ≤ depthLimit) (hwhole : v.tokens.all Token.isWhole) :
    Serialises v.toText v := by
  rw [List.all_eq_true] at hwhole
  have hrange : v.InRange := fun n hn => by
    have hn := hwhole _ hn
    cases n with
    | int n => simpa [Token.isWhole, Number.InRange] using hn
    | float x => cases hn
  have hexact : v.Exact := fun x hx => absurd (hwhole _ hx) (by simp [Token.isWhole])
  exact ⟨.ofValue v, ofText?_toText hrange hexact, hdepth, means_ofValue hsorted⟩

end Json

/-! ### The mapping -/

namespace Lenient

/-- A JSON text is read the same behind the two passes. -/
lemma ofText?_clean {s : String} {t : Term} (h : Term.ofText? s = some t) :
    Term.ofText? (clean s) = some t := by
  obtain ⟨toks, htokens, hterm⟩ := Option.bind_eq_some_iff.1 h
  obtain ⟨ws, hws, hspaced⟩ := exists_words htokens
  obtain ⟨b, hrun⟩ := run_of_ofTokens? hterm
  have hshape : List.Forall₂ Shaped ws toks := hws.imp fun _ _ h => h.shape
  have hwrites : Writes ws t := ⟨toks, hws, hterm⟩
  exact hwrites.ofText? (clean_loose (tidy_of_spaced hspaced).loose (word_of_shaped hshape)
    (chain_of_shaped hshape (chain_of_run hrun)))

end Lenient

namespace Mapping

variable [Regex.Engine]

lemma ofTerm_means (name : String) {t : Term} {v : Value} (h : t.Means v)
    (hdepth : t.depth ≤ depthLimit) : ofTerm name depthLimit t = ofValue name v := by
  rw [← ofTerm_ofValue name (Nat.le_trans h.depth_le hdepth), ofTerm, ofTerm,
    MappingDocument.byValue_ofTerm? depthLimit h]

/-- **A mapping is loaded from a text as from the value the text writes.** -/
lemma ofLenientText_of_serialises (name : String) {s : String} {v : Value} (h : Serialises s v) :
    ofLenientText name s = ofValue name v := by
  obtain ⟨t, ht, hdepth, hmeans⟩ := h
  rw [ofLenientText, ofText, Lenient.ofText?_clean ht]
  exact ofTerm_means name hmeans hdepth

end Mapping

/-- The mapping of a name is the value that the file of the name holds. -/
lemma Directory.load_serialised [Regex.Engine] {d : Directory} {name file : String} {v : Value}
    (hname : isUnsafeName name = false) (hpath : isFileName (name ++ ".json"))
    (hfile : Keyed.get? d (name ++ ".json") = some (.file (Text.toBytes file)))
    (h : Serialises file v) : d.load name = Mapping.ofValue name v := by
  simp only [load, hname, hpath, hfile, Text.ofBytes?_toBytes, Bool.not_true, Bool.false_eq_true,
    if_false, Mapping.ofLenientText_of_serialises name h]

/-- Where the cache is empty an extraction is by the mapping in the directory. -/
lemma Session.run_extract [Regex.Engine] {s : Session} {i : Nat} (h : s.caches i = [])
    (name page address : String) :
    (s.run (.extract i name page address)).1 = outcome (s.directory.load name) fun m =>
      .extracted (.ofText page address m s.options) := by
  have hnone : Keyed.get? (s.caches i) name = none := by rw [h, Keyed.get?_nil]
  have hneeds : (Action.extract i name page address).needs? = some (i, name) := rfl
  rw [run_needs hneeds]
  cases hload : s.directory.load name with
  | ok m => rw [fetch_loaded hnone hload]; rfl
  | error e => rw [fetch_failed hnone hload]; rfl

/-! ### The request -/

lemma Json.Term.strings?_ofStrings (d : Nat) (texts : List String) :
    strings? (d + 1) (.ofValue (.ofStrings texts)) = some texts := by
  rw [Value.ofStrings, ofValue, ofItems_eq_map, List.map_map, strings?, list?, List.mapM_map]
  have hread : ∀ s ∈ texts, (string? ∘ ofValue ∘ Value.string) s = some (id s) := fun _ _ => rfl
  exact (mapM_eq_map hread).trans (congrArg some (List.map_id texts))

namespace Options

lemma ofTerm?_toJson {o : Options} (h : o.flightDepth < 2 ^ 64) (d : Nat) :
    ofTerm? (d + 2) (.ofValue o.toJson) = some o := by
  have hsorted : o.toJson = .object
      [("allowedImageExtensions", .ofStrings o.imageExtensions),
        ("includeFieldTrace", .bool o.traceFields), ("maxFlightDepth", .ofInt o.flightDepth),
        ("upgradeHttpImages", .bool o.upgradeImages)] := by
    have hupgrade : "allowedImageExtensions" < "upgradeHttpImages" := by decide
    have hdepth : "allowedImageExtensions" < "maxFlightDepth" ∧
        "maxFlightDepth" < "upgradeHttpImages" := by
      decide
    have htrace : "allowedImageExtensions" < "includeFieldTrace" ∧
        "includeFieldTrace" < "maxFlightDepth" := by
      decide
    simp only [toJson, Keyed.ofList, List.foldl_cons, List.foldl_nil, Keyed.insert_nil,
      Keyed.insert_before hupgrade, Keyed.insert_after hdepth.1, Keyed.insert_before hdepth.2,
      Keyed.insert_after htrace.1, Keyed.insert_before htrace.2]
  have hfields : shape.read? (.ofValue o.toJson) = some
      [("allowedImageExtensions", .ofValue (.ofStrings o.imageExtensions)),
        ("includeFieldTrace", .bool o.traceFields),
        ("maxFlightDepth", .number (some (.int o.flightDepth))),
        ("upgradeHttpImages", .bool o.upgradeImages)] := by
    simp [hsorted, Term.ofValue, ofMembers, Shape.read?, Shape.ofMembers?, Shape.fieldOf?, shape,
      Value.ofInt]
  have hlevels : levels? (.number (some (.int o.flightDepth))) = some o.flightDepth := by
    have hrange : (0 : Int) ≤ o.flightDepth ∧ (o.flightDepth : Int) < 2 ^ 64 := by omega
    rw [levels?, Term.integer?, Option.bind_some, if_pos hrange, Int.toNat_natCast]
  rw [ofTerm?, hfields]
  simp [Fields.get?, List.lookup_cons, Term.strings?_ofStrings, hlevels, Term.bool?]

end Options

namespace Request

lemma ofText?_of_serialises {s : String} {r : Request} (hlevels : r.options.flightDepth < 2 ^ 64)
    (h : Serialises s r.toJson) : ofText? s = some r := by
  obtain ⟨t, ht, hdepth, hmeans⟩ := h
  have hmember : ("mapping", r.mapping) ∈ [("mapping", r.mapping),
      ("mappingName", (r.name.map .string).getD .null), ("options", r.options.toJson),
      ("sourceUrl", .string r.address)] := List.mem_cons_self
  have hwithin : (Term.ofValue r.mapping).depth ≤ 126 := by
    have hle : (Term.ofValue r.toJson).depth ≤ 127 := Nat.le_trans hmeans.depth_le hdepth
    rw [toJson, Term.ofValue, Term.depth, ofMembers, membersDepth, Nat.succ_le_succ_iff] at hle
    exact Nat.le_trans (Nat.le_max_left _ _) hle
  have hvalue : (Term.ofValue r.mapping).value? 126 = some r.mapping :=
    (hmeans.member hmember).value? hwithin
  have hname : Term.optionalString? (.ofValue ((r.name.map .string).getD .null)) = some r.name := by
    cases r.name <;> rfl
  have hoptions : Options.ofTerm? 126 (.ofValue r.options.toJson) = some r.options :=
    Options.ofTerm?_toJson hlevels 124
  have hfields : shape.read? (.ofValue r.toJson) = some
      [("mapping", .ofValue r.mapping),
        ("mappingName", .ofValue ((r.name.map .string).getD .null)),
        ("options", .ofValue r.options.toJson), ("sourceUrl", .text (some r.address))] := by
    simp [toJson, Term.ofValue, ofMembers, Shape.read?, Shape.ofMembers?, Shape.fieldOf?, shape]
  rw [ofText?, ht, Option.bind_some, byValue_ofTerm? depthLimit hmeans, depthLimit, ofTerm?,
    hfields]
  simp [Fields.get?, List.lookup_cons, hvalue, hname, hoptions, Term.string?]

lemma untilZero_toBytes {s : String} (h : '\x00' ∉ s.toList) :
    untilZero (Text.toBytes s) = Text.toBytes s := by
  refine List.takeWhile_eq_self_iff.2 fun b hb => ?_
  have hne : b ≠ 0 := fun hzero => Text.zero_not_mem_toBytes h (hzero ▸ hb)
  simp [hne]

/-- A text that is read as a request is answered by the extraction of the request. -/
lemma answer_of_read [Regex.Engine] {s page : String} {r : Request} (h : ofText? s = some r) :
    answer (some (Text.toBytes page)) (some (Text.toBytes s)) =
      match r.extraction page with
      | .ok e => .ok e.toJson
      | .error err => .error (.mapping err) := by
  obtain ⟨t, ht, -⟩ := Option.bind_eq_some_iff.1 h
  obtain ⟨toks, htokens, -⟩ := Option.bind_eq_some_iff.1 ht
  have hzero := untilZero_toBytes (zero_not_mem_of_tokens? htokens)
  have hrequest : ofBytes (some (Text.toBytes s)) = .ok r := by
    simp only [ofBytes, hzero, Text.ofBytes?_toBytes, h]
  simp only [answer, Option.getD_some, Text.ofBytes?_toBytes, hrequest]
  change (match r.extraction page with
    | .ok e => pure e.toJson
    | .error err => throw (Fault.mapping err)) = _
  cases r.extraction page <;> rfl

lemma reply_of_read [Regex.Engine] {s page : String} {r : Request} (h : ofText? s = some r) :
    reply (some (Text.toBytes page)) (some (Text.toBytes s)) =
      match r.extraction page with
      | .ok e => ⟨some e.toJson.toText, none⟩
      | .error err => ⟨none, some (err.mapName withoutZeros).message⟩ := by
  rw [reply, answer_of_read h]
  cases r.extraction page with
  | ok e => exact if_neg e.toJson.zero_not_mem_toText
  | error err => rfl

end Request

/-- **The two entrances agree**: let a file hold any serialisation of a mapping, and a request any
serialisation of an address, the same mapping, the name of the file and options. The reply to the
request with a page has a result or a message, but not both. It has a result if the extraction by
the name of the file, in a session of these options whose cache is empty, comes about, and then the
same; otherwise the message of the error that the extraction fails with, but with spaces for the
zero characters in the name it speaks of. -/
theorem entrances_agree [Regex.Engine] (page : String) {s : Session} {i : Nat} {r : Request}
    {name file request : String}
    (hcache : s.caches i = []) (hoptions : s.options = r.options) (hname : r.name = some name)
    (hsafe : Directory.isUnsafeName name = false) (hpath : Directory.isFileName (name ++ ".json"))
    (hfile : Keyed.get? s.directory (name ++ ".json") = some (.file (Text.toBytes file)))
    (hmapping : Serialises file r.mapping) (hrequest : Serialises request r.toJson)
    (hlevels : r.options.flightDepth < 2 ^ 64) :
    (∃ e, (s.run (.extract i name page r.address)).1 = .extracted e ∧
      Request.reply (some (Text.toBytes page)) (some (Text.toBytes request)) =
        ⟨some e.toJson.toText, none⟩) ∨
    ∃ err, (s.run (.extract i name page r.address)).1 = .failed err ∧
      Request.reply (some (Text.toBytes page)) (some (Text.toBytes request)) =
        ⟨none, some (err.mapName Request.withoutZeros).message⟩ := by
  have hread : Request.ofText? request = some r := Request.ofText?_of_serialises hlevels hrequest
  rw [Session.run_extract hcache, Directory.load_serialised hsafe hpath hfile hmapping,
    Request.reply_of_read hread, Request.extraction, hname, Option.getD_some, hoptions]
  cases Mapping.ofValue name r.mapping with
  | ok m => exact .inl ⟨_, rfl, rfl⟩
  | error err => exact .inr ⟨err, rfl, rfl⟩

/-- A session whose directory holds one file, named `m`. -/
def fileSession (file : String) : Session :=
  { Session.new .standard with directory := [("m.json", .file (Text.toBytes file))] }

/-- A request for one text of a page. -/
def textRequest (field : String) (rule : Value) : Request where
  address := "https://example.com/1"
  mapping := .object [("name", .string "n"), ("textFields", .object [(field, rule)])]
  name := some "m"
  options := .standard

lemma not_isUnsafeName_m : Directory.isUnsafeName "m" = false := by
  have hdots : Text.occursIn ['.', '.'] ['m'] = false := rfl
  simpa [Directory.isUnsafeName] using hdots

lemma isFileName_m : Directory.isFileName ("m" ++ ".json") := by
  have hsize : "m.json".utf8ByteSize ≤ 255 := by decide
  simpa [Directory.isFileName] using hsize

def titleRequest : Request := textRequest "title" (.object [("cssLocator", .string "h1")])

/-- The mapping of the request with spaces and the members in another order. -/
def titleFile : String :=
  "\x7b\"textFields\": \x7b\"title\": \x7b\"cssLocator\": \"h1\"\x7d\x7d, \"name\": \"n\"\x7d"

lemma serialises_titleFile : Serialises titleFile titleRequest.mapping := by
  have hread : Term.ofText? titleFile = some (.object
    [(some "textFields",
        .object [(some "title", .object [(some "cssLocator", .text (some "h1"))])]),
      (some "name", .text (some "n"))]) := rfl
  have hmeans : (Term.ofValue titleRequest.mapping).Means titleRequest.mapping :=
    Value.means_ofValue (by decide)
  exact ⟨_, hread, by decide, hmeans.perm (List.Perm.swap _ _ _)⟩

theorem entrances_agree_title :
    Serialises titleFile titleRequest.mapping ∧
      Serialises titleRequest.toJson.toText titleRequest.toJson ∧
      ∃ e, ((fileSession titleFile).run
          (.extract 0 "m" "<h1>Loft</h1>" "https://example.com/1")).1 = .extracted e ∧
        Request.reply (some (Text.toBytes "<h1>Loft</h1>"))
          (some (Text.toBytes titleRequest.toJson.toText)) = ⟨some e.toJson.toText, none⟩ := by
  have hrequest : Serialises titleRequest.toJson.toText titleRequest.toJson :=
    Value.serialises_toText (by decide) (by decide) (by decide)
  have h := entrances_agree "<h1>Loft</h1>" (s := fileSession titleFile) (i := 0) rfl rfl rfl
    not_isUnsafeName_m isFileName_m rfl serialises_titleFile hrequest (by decide)
  refine ⟨serialises_titleFile, hrequest, ?_⟩
  obtain h | ⟨err, herr, -⟩ := h
  · exact h
  · have hloaded : (Mapping.ofValue "m" titleRequest.mapping).toOption.any fun _ => true := by
      decide +kernel
    obtain ⟨m, hm, -⟩ := Failure.ok_of_any hloaded
    rw [Session.run_extract rfl, Directory.load_serialised not_isUnsafeName_m isFileName_m rfl
      serialises_titleFile, hm] at herr
    cases herr

/-- A regular expression that is none, under a name with a zero character. -/
def zeroRequest : Request := textRequest "a\x00" (.object [("scriptRegEx", .string "(")])

/-- The message of the error is not the one in the reply, where a space stands for the zero
character. -/
theorem zero_character_replaced :
    Serialises zeroRequest.mapping.toText zeroRequest.mapping ∧
      Serialises zeroRequest.toJson.toText zeroRequest.toJson ∧
      ∃ err, ((fileSession zeroRequest.mapping.toText).run
          (.extract 0 "m" "" "https://example.com/1")).1 = .failed err ∧
        Request.reply (some (Text.toBytes "")) (some (Text.toBytes zeroRequest.toJson.toText)) =
          ⟨none, some "invalid scriptRegEx in field 'a '"⟩ ∧
        err.message ≠ "invalid scriptRegEx in field 'a '" := by
  have hmapping : Serialises zeroRequest.mapping.toText zeroRequest.mapping :=
    Value.serialises_toText (by decide) (by decide) (by decide)
  have hrequest : Serialises zeroRequest.toJson.toText zeroRequest.toJson :=
    Value.serialises_toText (by decide) (by decide) (by decide)
  have hrefused : Mapping.ofValue "m" zeroRequest.mapping = .error (.invalidRegex "a\x00") := by
    have h : (match Mapping.ofValue "m" zeroRequest.mapping with
      | .error (.invalidRegex field) => field == "a\x00"
      | _ => false) = true := by decide +kernel
    split at h
    · next field hfield => rw [hfield, beq_iff_eq.1 h]
    · cases h
  have hread := Request.ofText?_of_serialises (r := zeroRequest) (by decide) hrequest
  refine ⟨hmapping, hrequest, .invalidRegex "a\x00", ?_, ?_, by decide⟩
  · rw [Session.run_extract rfl, Directory.load_serialised not_isUnsafeName_m isFileName_m rfl
      hmapping, hrefused]
    rfl
  · have hfailed : zeroRequest.extraction "" = .error (.invalidRegex "a\x00") := by
      rw [Request.extraction, show zeroRequest.name.getD "inline" = "m" from rfl, hrefused]
      rfl
    rw [Request.reply_of_read hread, hfailed]
    decide

end Estate
