import Mathlib.Tactic.Lemma
import Estate.Proofs.Url.Authority

/-!
Addresses on the web are read as they are written: what the text of an address that has been read
stands for is that address.
-/

namespace Estate

namespace Url

open Failure

/-! ### What is read -/

/-- An address by http or https as it is kept: each part is written with nothing left to encode. -/
structure Web (u : Url) : Prop where
  scheme : u.scheme = "http" ∨ u.scheme = "https"
  username : Encoded userSet u.username.toList
  password : Encoded userSet u.password.toList
  host : ∃ host, u.host = some host ∧ host.Settled
  port : portFor u.scheme u.port = u.port
  small : ∀ p ∈ u.port, p ≤ 65535
  path : IsPath u.path
  query : ∀ q ∈ u.query, Encoded (querySet u.scheme) q.toList
  fragment : ∀ f ∈ u.fragment, Encoded fragmentSet f.toList

/-- What is read of an authority under a special scheme. -/
lemma ofAuthority_eq_ok {scheme : String} {p : Pieces} {cs : List Char} {u : Url}
    (hspecial : isSpecial scheme) :
    ofAuthority scheme p cs = .ok u ↔ ∃ username password rest host port path,
      credentials? scheme (p.query.isNone && p.fragment.isNone) cs =
        .ok (username, password, rest) ∧
      (spanHost scheme false rest).1 ≠ [] ∧ host? (spanHost scheme false rest).1 = .ok host ∧
      port? (spanHost scheme false rest).2 = .ok (port, path) ∧
      withEnd ⟨scheme, username, password, some host, portFor scheme port, rootPath scheme path,
        none, none⟩ p = u := by
  unfold ofAuthority
  simp only [bind_ok, hspecial, Bool.and_true, if_true]
  constructor
  · rintro ⟨⟨username, password, rest⟩, hcredentials, h⟩
    cases hempty : (spanHost scheme false rest).1.isEmpty with
    | true =>
      simp only [hempty, if_true, bind_ok] at h
      obtain ⟨_, hthrow, -⟩ := h
      cases hthrow
    | false =>
      simp only [hempty, Bool.false_and, Bool.false_eq_true, if_false, bind_ok] at h
      obtain ⟨host, hhost, ⟨port, path⟩, hport, hu⟩ := h
      exact ⟨username, password, rest, host, port, path, hcredentials, by simpa using hempty, hhost,
        hport, Except.ok.inj hu⟩
  · rintro ⟨username, password, rest, host, port, path, hcredentials, hempty, hhost, hport, rfl⟩
    have hfilled : (spanHost scheme false rest).1.isEmpty = false := by simpa using hempty
    refine ⟨_, hcredentials, ?_⟩
    simp only [hfilled, Bool.false_and, Bool.false_eq_true, if_false, bind_ok]
    exact ⟨host, hhost, _, hport, rfl⟩

lemma portFor_portFor (scheme : String) (port : Option Nat) :
    portFor scheme (portFor scheme port) = portFor scheme port := by
  unfold portFor
  split_ifs <;> rfl

lemma le_of_portFor {scheme : String} {port : Option Nat} (h : ∀ p ∈ port, p ≤ 65535) :
    ∀ p ∈ portFor scheme port, p ≤ 65535 := by
  unfold portFor
  split_ifs
  · simp
  · exact h

section

variable {scheme : String} (hweb : scheme = "http" ∨ scheme = "https")

include hweb

lemma isSpecial_web : isSpecial scheme := by
  rcases hweb with rfl | rfl <;> decide

lemma ne_file_of_web : scheme ≠ "file" := by
  rcases hweb with rfl | rfl <;> decide

lemma querySet_web : querySet scheme = " \"#<>'" := by
  rcases hweb with rfl | rfl <;> decide

/-- An authority on the web is read as an address on the web. -/
lemma web_of_ofAuthority {p : Pieces} {cs : List Char} {u : Url}
    (h : ofAuthority scheme p cs = .ok u) : u.Web := by
  obtain ⟨username, password, rest, host, port, path, hcredentials, -, hhost, hport, rfl⟩ :=
    (ofAuthority_eq_ok (isSpecial_web hweb)).1 h
  obtain ⟨husername, hpassword⟩ := encoded_credentials? hcredentials
  have hquery : Text.Spells (querySet scheme).toList := by
    rw [querySet_web hweb]
    decide
  refine ⟨hweb, husername, hpassword, ⟨host, rfl, settled_of_host? hhost⟩,
    portFor_portFor scheme port, le_of_portFor (le_of_port? hport),
    isPath_rootPath (isSpecial_web hweb) (ne_file_of_web hweb) path,
    fun q hq => ?_, fun f hf => ?_⟩
  · obtain ⟨cs, -, rfl⟩ := Option.map_eq_some_iff.1 hq
    exact encoded_encodeText hquery cs
  · obtain ⟨cs, -, rfl⟩ := Option.map_eq_some_iff.1 hf
    exact encoded_encodeText (by decide) cs

end

/-! ### The scheme -/

/-- Whatever address a computation gives is by the scheme. -/
def GivesScheme (scheme : String) (x : Except Fault Url) : Prop :=
  ∀ u, x = .ok u → u.scheme = scheme

lemma givesScheme_bind {α : Type} {scheme : String} {x : Except Fault α} {f : α → Except Fault Url}
    (h : ∀ a, GivesScheme scheme (f a)) : GivesScheme scheme (x >>= f) := by
  intro u hu
  obtain ⟨a, -, ha⟩ := bind_ok.1 hu
  exact h a u ha

lemma givesScheme_ok {scheme : String} {u : Url} (h : u.scheme = scheme) :
    GivesScheme scheme (.ok u) := by
  rintro _ ⟨⟩
  exact h

lemma givesScheme_map {α : Type} {scheme : String} {x : Except Fault α} {f : α → Url}
    (h : ∀ a, (f a).scheme = scheme) : GivesScheme scheme (x.map f) := by
  cases x with
  | error e => rintro u ⟨⟩
  | ok a => exact givesScheme_ok (h a)

lemma givesScheme_ofAuthority (scheme : String) (p : Pieces) (cs : List Char) :
    GivesScheme scheme (ofAuthority scheme p cs) := by
  unfold ofAuthority
  refine givesScheme_bind fun _ => ?_
  dsimp only
  -- Each check either ends the reading or leads on to the next part.
  split_ifs <;>
  repeat
    refine givesScheme_bind fun _ => ?_
    try split_ifs
  all_goals exact givesScheme_ok rfl

lemma givesScheme_fileFrom {base : Url} (h : base.scheme = "file") (p : Pieces) :
    GivesScheme "file" (fileFrom base p) := by
  unfold fileFrom
  split
  · refine givesScheme_ok ?_
    unfold withNewEnd
    dsimp only
    split_ifs <;> exact h
  iterate 4
    · dsimp only
      split_ifs
      · exact givesScheme_ok rfl
      · exact givesScheme_ok rfl
      · exact givesScheme_map fun _ => rfl
  · exact givesScheme_ok rfl

lemma givesScheme_ofScheme (scheme : String) (p : Pieces) :
    GivesScheme scheme (ofScheme none scheme p) := by
  unfold ofScheme
  dsimp only [Option.filter_none]
  split_ifs with hfile
  · rw [beq_iff_eq.1 hfile]
    exact givesScheme_fileFrom rfl p
  · exact givesScheme_ofAuthority _ _ _
  · split
    · exact givesScheme_ofAuthority _ _ _
    · exact givesScheme_ok rfl
    · exact givesScheme_ok rfl

/-- Under a scheme of the web an authority follows, behind all the slashes. -/
lemma ofScheme_web {scheme : String} (hweb : scheme = "http" ∨ scheme = "https") (p : Pieces) :
    ofScheme none scheme p = ofAuthority scheme p (p.main.dropWhile isSlash) := by
  rw [← Text.drop_takeWhile]
  unfold ofScheme
  rw [if_neg (by simpa using ne_file_of_web hweb), if_pos (isSpecial_web hweb)]
  rfl

/-- **Addresses by http and https are read as addresses on the web.** -/
theorem web_of_ofText {s : String} {u : Url} (h : ofText s = .ok u)
    (hweb : u.scheme = "http" ∨ u.scheme = "https") : u.Web := by
  unfold ofText read at h
  dsimp only at h
  split at h
  · next scheme rest _ =>
    have hscheme := givesScheme_ofScheme scheme _ u h
    rw [hscheme] at hweb
    rw [ofScheme_web hweb] at h
    exact web_of_ofAuthority hweb h
  · cases h
  · next hbase => cases hbase

/-! ### What is written -/

lemma map_encodeText {set : String} {part : Option String} (h : ∀ s ∈ part, Encoded set s.toList) :
    (part.map String.toList).map (encodeText set) = part := by
  cases part with
  | none => rfl
  | some s => exact congrArg some (encodeText_of_encoded (h s rfl))

/-- A character that can stand before the query. -/
def InMain (c : Char) : Prop := Text.IsPrinted c ∧ c ≠ '#' ∧ c ≠ '?'

instance (c : Char) : Decidable (InMain c) := by
  unfold InMain
  infer_instance

lemma inMain_of_inHost {c : Char} (h : InHost c) : InMain c := by
  refine ⟨h.1, ?_, ?_⟩ <;> rintro rfl <;> exact h.2 (by decide)

lemma inMain_of_pathSet {c : Char} (h : Text.leaves pathSet.toList c) : InMain c := by
  have hall : ∀ n < 127, Text.leaves pathSet.toList (.ofNat n) → InMain (.ofNat n) := by
    decide +kernel
  exact Text.forall_leaves hall h

lemma essence_printed {cs : List Char} (h : ∀ c ∈ cs, Text.IsPrinted c) : essence cs = cs := by
  have hkept : ∀ c, Text.IsPrinted c → decide (c ≤ ' ') = false ∧
      (c != '\t' && c != '\n' && c != '\r') = true := fun _ => Text.forall_printed
    (p := fun c => decide (c ≤ ' ') = false ∧ (c != '\t' && c != '\n' && c != '\r') = true)
    (by decide)
  have hends : ∀ ds : List Char, (∀ c ∈ ds, Text.IsPrinted c) → ds.dropWhile (· ≤ ' ') = ds := by
    intro ds hds
    exact Text.dropWhile_append_of_all (g := []) (by simp) fun c hc =>
      (hkept c (hds c (List.mem_of_mem_head? hc))).1
  unfold essence
  dsimp only
  rw [hends cs h, hends cs.reverse fun c hc => h c (List.mem_reverse.1 hc), List.reverse_reverse]
  exact List.filter_eq_self.2 fun c hc => (hkept c (h c hc)).2

lemma scheme?_append {name rest : List Char} (hletter : name.head?.any Text.isAsciiLetter)
    (hparts : ∀ c ∈ name, (Text.isAsciiAlphanumeric c || c == '+' || c == '-' || c == '.') = true)
    (hlower : name.map Char.toLower = name) :
    scheme? (name ++ ':' :: rest) = some (.ofList name, rest) := by
  have hhead : (name ++ ':' :: rest).head?.any Text.isAsciiLetter = true := by
    cases name with
    | nil => cases hletter
    | cons c name => exact hletter
  have hcolon : ∀ c ∈ (':' :: rest).head?,
      (Text.isAsciiAlphanumeric c || c == '+' || c == '-' || c == '.') = false := by
    rintro c ⟨⟩
    rfl
  have hname : (String.ofList name).toLower = .ofList name :=
    String.toList_inj.1 (by rw [Text.toList_toLower, hlower, String.toList_ofList])
  unfold scheme?
  dsimp only
  rw [hhead, Text.takeWhile_append_of_all hparts hcolon, Text.dropWhile_append_of_all hparts hcolon]
  simp only [hname]

/-- The name, and the password behind a colon. -/
def userText (u : Url) : List Char :=
  u.username.toList ++ behind ':' (if u.password.isEmpty then none else some u.password.toList)

/-- The host and the port. -/
def serverText (u : Url) : List Char := u.hostText.toList ++ portText u.port

/-- What stands between the scheme and the query. -/
def mainText (u : Url) : List Char :=
  '/' :: '/' :: (u.credentials.toList ++ u.serverText ++ u.pathText.toList)

lemma toList_credentials (u : Url) : u.credentials.toList =
    if u.username.isEmpty && u.password.isEmpty then [] else u.userText ++ ['@'] := by
  unfold credentials userText
  dsimp only
  split_ifs <;> simp [behind]

namespace Web

variable {u : Url} (h : u.Web)

include h

lemma toList_toText : u.toText.toList = u.scheme.toList ++ ':' :: (u.mainText ++
    behind '?' (u.query.map String.toList) ++ behind '#' (u.fragment.map String.toList)) := by
  obtain ⟨host, hhost, -⟩ := h.host
  have hoption : ∀ (sep : String) (c : Char) (part : Option String), sep.toList = [c] →
      ((part.map (sep ++ ·)).getD "").toList = behind c (part.map String.toList) := by
    rintro sep c (_ | s) hsep <;> simp [behind, hsep]
  have hauthority : u.authority.toList = '/' :: '/' :: (u.credentials.toList ++ u.serverText) := by
    unfold authority serverText hostText
    rw [hhost]
    simp [← toList_port]
  rw [toText]
  simp only [String.toList_append, hoption "?" '?' u.query rfl, hoption "#" '#' u.fragment rfl,
    hauthority, mainText]
  simp

lemma startsPath : StartsPath u.pathText.toList := by
  obtain ⟨segments, hpath, hne, -⟩ := h.path
  obtain ⟨s, segments, rfl⟩ := List.exists_cons_of_ne_nil hne
  rw [pathText, hpath, toList_segments]
  rintro c ⟨⟩
  rfl

lemma inHost_user : ∀ c ∈ u.userText, InHost c := by
  intro c hc
  rcases List.mem_append.1 hc with hc | hc
  · exact (inHost_of_userSet (h.username c hc)).1
  · rcases mem_behind hc with rfl | ⟨password, hpassword, hc⟩
    · decide
    · split_ifs at hpassword
      · cases hpassword
      · cases hpassword
        exact (inHost_of_userSet (h.password c hc)).1

lemma inHost_server : ∀ c ∈ u.serverText, InHost c := by
  obtain ⟨host, hhost, hsettled⟩ := h.host
  intro c hc
  rcases List.mem_append.1 hc with hc | hc
  · rw [hostText, hhost] at hc
    exact hsettled.printed c hc
  · exact inHost_portText c hc

lemma server_ne_nil : u.serverText ≠ [] := by
  obtain ⟨host, hhost, hsettled⟩ := h.host
  rw [serverText, hostText, hhost]
  exact List.append_ne_nil_of_left_ne_nil hsettled.filled _

/-- The name and password are read as they are written. -/
lemma credentials?_credentials (atEnd : Bool) :
    credentials? u.scheme atEnd (u.credentials.toList ++ u.serverText ++ u.pathText.toList) =
      .ok (u.username, u.password, u.serverText ++ u.pathText.toList) := by
  rw [toList_credentials]
  split_ifs with hempty
  · rw [Bool.and_eq_true, String.isEmpty_iff, String.isEmpty_iff] at hempty
    rw [List.nil_append, credentials?_nobody h.inHost_server h.startsPath, hempty.1, hempty.2]
  · have hcolon : ':' ∉ u.username.toList := fun hmem =>
      (inHost_of_userSet (h.username ':' hmem)).2 rfl
    have hpassword : encodeText userSet
        ((if u.password.isEmpty then none else some u.password.toList).getD []) = u.password := by
      split_ifs with hnone
      · rw [String.isEmpty_iff.1 hnone]
        rfl
      · exact encodeText_of_encoded h.password
    rw [List.append_assoc (u.userText), List.singleton_append,
      credentials?_user h.inHost_user h.inHost_server h.server_ne_nil h.startsPath, userText,
      cutAtChar_behind hcolon, encodeText_of_encoded h.username, hpassword]

lemma spanHost_server : spanHost u.scheme false (u.serverText ++ u.pathText.toList) =
    (u.hostText.toList, portText u.port ++ u.pathText.toList) := by
  obtain ⟨host, hhost, hsettled⟩ := h.host
  have hends : EndsHost (portText u.port ++ u.pathText.toList) := by
    intro c hc
    cases hport : u.port with
    | none =>
      rw [hport] at hc
      exact .inl (h.startsPath c hc)
    | some p =>
      rw [hport] at hc
      cases hc
      exact .inr rfl
  rw [serverText, hostText, hhost, List.append_assoc]
  exact hsettled.spanned u.scheme _ hends

/-- What stands behind the slashes is read as it is written. -/
lemma ofAuthority_text : ofAuthority u.scheme ⟨u.mainText, u.query.map String.toList,
    u.fragment.map String.toList⟩ (u.credentials.toList ++ u.serverText ++ u.pathText.toList) =
      .ok u := by
  obtain ⟨host, hhost, hsettled⟩ := h.host
  have htext : u.hostText = host.toText := by rw [hostText, hhost]; rfl
  refine (ofAuthority_eq_ok (isSpecial_web h.scheme)).2 ⟨u.username, u.password, _, host, u.port,
    u.pathText.toList, h.credentials?_credentials _, ?_, ?_, ?_, ?_⟩
  · rw [h.spanHost_server, htext]
    exact hsettled.filled
  · rw [h.spanHost_server, htext]
    exact hsettled.reads
  · rw [h.spanHost_server]
    exact port?_portText h.small h.startsPath
  · have hquery := map_encodeText h.query
    have hfragment := map_encodeText h.fragment
    have hpath : rootPath u.scheme u.pathText.toList = u.path :=
      rootPath_toText (isSpecial_web h.scheme) (ne_file_of_web h.scheme) h.path
    rw [withEnd]
    simp only [hquery, hfragment, hpath, h.port, ← hhost]

lemma inAuthority : ∀ c ∈ u.credentials.toList ++ u.serverText, InHost c ∨ c = '@' := by
  intro c hc
  rcases List.mem_append.1 hc with hc | hc
  · rw [toList_credentials] at hc
    split_ifs at hc
    · simp at hc
    · rcases List.mem_append.1 hc with hc | hc
      · exact .inl (h.inHost_user c hc)
      · exact .inr (List.mem_singleton.1 hc)
  · exact .inl (h.inHost_server c hc)

/-- The scheme and what stands before the query hold neither of the signs that end them. -/
lemma inMain_main : ∀ c ∈ u.scheme.toList ++ ':' :: u.mainText, InMain c := by
  have hauthority : ∀ c ∈ u.credentials.toList ++ u.serverText, InMain c := by
    intro c hc
    rcases h.inAuthority c hc with hin | rfl
    · exact inMain_of_inHost hin
    · decide
  have hpath : ∀ c ∈ u.pathText.toList, InMain c := by
    obtain ⟨segments, hsegments, -, hall⟩ := h.path
    intro c hc
    rw [pathText, hsegments, toList_segments, List.mem_flatMap] at hc
    obtain ⟨s, hs, hc⟩ := hc
    rcases List.mem_cons.1 hc with rfl | hc
    · decide
    · exact inMain_of_pathSet ((hall s hs).encoded c hc)
  intro c hc
  rw [mainText, List.mem_append, List.mem_cons, List.mem_cons, List.mem_cons, List.mem_append] at hc
  rcases hc with hc | rfl | rfl | rfl | hc | hc
  · have hweb : ∀ scheme ∈ ["http", "https"], scheme.toList.all (InMain ·) := by decide
    exact List.all_iff_forall_prop.1 (hweb u.scheme (by simpa using h.scheme)) c hc
  · decide
  · decide
  · decide
  · exact hauthority c hc
  · exact hpath c hc

lemma inQuery : ∀ q ∈ u.query.map String.toList, ∀ c ∈ q, Text.IsPrinted c ∧ c ≠ '#' := by
  intro q hq c hc
  obtain ⟨s, hs, rfl⟩ := Option.map_eq_some_iff.1 hq
  have hleaves := h.query s hs c hc
  rw [querySet_web h.scheme] at hleaves
  have hall : ∀ n < 127, Text.leaves " \"#<>'".toList (.ofNat n) →
      Text.IsPrinted (.ofNat n) ∧ Char.ofNat n ≠ '#' := by decide +kernel
  exact Text.forall_leaves (p := fun c => Text.IsPrinted c ∧ c ≠ '#') hall hleaves

lemma inFragment : ∀ f ∈ u.fragment.map String.toList, ∀ c ∈ f, Text.IsPrinted c := by
  intro f hf c hc
  obtain ⟨s, hs, rfl⟩ := Option.map_eq_some_iff.1 hf
  have hall : ∀ n < 127, Text.leaves fragmentSet.toList (.ofNat n) → Text.IsPrinted (.ofNat n) := by
    decide +kernel
  exact Text.forall_leaves hall (h.fragment s hs c hc)

lemma printed_toText : ∀ c ∈ u.toText.toList, Text.IsPrinted c := by
  intro c hc
  rw [h.toList_toText, ← List.cons_append, ← List.cons_append, ← List.append_assoc,
    ← List.append_assoc] at hc
  rcases List.mem_append.1 hc with hc | hc
  · rcases List.mem_append.1 hc with hc | hc
    · exact (h.inMain_main c hc).1
    · rcases mem_behind hc with rfl | ⟨q, hq, hc⟩
      · decide
      · exact (h.inQuery q hq c hc).1
  · rcases mem_behind hc with rfl | ⟨f, hf, hc⟩
    · decide
    · exact h.inFragment f hf c hc

lemma pieces_toText : Pieces.ofText u.toText.toList =
    ⟨u.scheme.toList ++ ':' :: u.mainText, u.query.map String.toList,
      u.fragment.map String.toList⟩ := by
  have hquestion : '?' ∉ u.scheme.toList ++ ':' :: u.mainText := fun hmem =>
    (h.inMain_main '?' hmem).2.2 rfl
  have hsharp : '#' ∉ u.scheme.toList ++ ':' :: u.mainText ++
      behind '?' (u.query.map String.toList) := by
    intro hmem
    rcases List.mem_append.1 hmem with hmem | hmem
    · exact (h.inMain_main '#' hmem).2.1 rfl
    · rcases mem_behind hmem with heq | ⟨q, hq, hmem⟩
      · exact absurd heq (by decide)
      · exact (h.inQuery q hq '#' hmem).2 rfl
  rw [h.toList_toText, Pieces.ofText, ← List.cons_append, ← List.cons_append, ← List.append_assoc,
    ← List.append_assoc, cutAtChar_behind hsharp]
  dsimp only
  rw [cutAtChar_behind hquestion]

lemma scheme?_main :
    scheme? (u.scheme.toList ++ ':' :: u.mainText) = some (u.scheme, u.mainText) := by
  have hall : ∀ scheme ∈ ["http", "https"], scheme.toList.head?.any Text.isAsciiLetter ∧
      scheme.toList.all (fun c => Text.isAsciiAlphanumeric c || c == '+' || c == '-' || c == '.') ∧
      scheme.toList.map Char.toLower = scheme.toList := by decide
  obtain ⟨hletter, hparts, hlower⟩ := hall u.scheme (by simpa using h.scheme)
  rw [scheme?_append hletter (List.all_eq_true.1 hparts) hlower, String.ofList_toList]

/-- There are two slashes before the name or the host. -/
lemma dropWhile_main : u.mainText.dropWhile isSlash =
    u.credentials.toList ++ u.serverText ++ u.pathText.toList := by
  have hslashes : ∀ c ∈ ['/', '/'], isSlash c = true := List.all_eq_true.1 (by decide)
  have hfilled : u.credentials.toList ++ u.serverText ≠ [] :=
    List.append_ne_nil_of_right_ne_nil _ h.server_ne_nil
  change (['/', '/'] ++ (u.credentials.toList ++ u.serverText ++ u.pathText.toList)).dropWhile
    isSlash = _
  refine Text.dropWhile_append_of_all hslashes fun c hc => ?_
  rw [List.head?_append_of_ne_nil _ hfilled] at hc
  have hends := isSeparator_ends u.scheme h.inAuthority c (List.mem_of_mem_head? hc)
  rwa [← isSeparator_eq_isSlash (isSpecial_web h.scheme), ← Bool.not_eq_true']

/-- **An address on the web is read as it is written.** -/
theorem ofText_toText : ofText u.toText = .ok u := by
  unfold ofText read
  rw [essence_printed h.printed_toText, h.pieces_toText]
  simp only [h.scheme?_main]
  rw [ofScheme_web h.scheme]
  dsimp only
  rw [h.dropWhile_main]
  exact h.ofAuthority_text

/-- An address on the web is one by https too. -/
theorem secure : (u.withScheme "https").Web where
  scheme := .inr rfl
  username := h.username
  password := h.password
  host := h.host
  port := portFor_portFor "https" u.port
  small := le_of_portFor h.small
  path := h.path
  query := fun q hq => by
    have hset : querySet (u.withScheme "https").scheme = querySet u.scheme := by
      rw [querySet_web h.scheme]
      exact querySet_web (.inr rfl)
    rw [hset]
    exact h.query q hq
  fragment := h.fragment

end Web

end Url

end Estate
