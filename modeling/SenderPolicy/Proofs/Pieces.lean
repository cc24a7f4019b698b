import SenderPolicy.Dns.Client
import SenderPolicy.Proofs.Observation
import SenderPolicy.Proofs.Utf8Text

/-!
# Texts in pieces

A name server hands a text over in pieces. Put together they are the text, but each of them has to be UTF-8: a text is
refused if it is cut inside a character. Where else it is cut makes no difference, to the texts or to any walk: two walks
stay in step until one of them is ended by a text that is refused.

- `Dns.Link.recordTexts_eq_ok_iff`: the texts that are read are those that the bytes of their pieces, put together, encode,
  if no piece starts inside a character;
- `Dns.Server.Recuts`: a name server gives the answers of another one with texts cut at other places;
- `Dns.Server.SameButCuts`: two runs are the same, unless one of them stops at a text cut inside a character;
- `Dns.Server.sameButCuts_validate`: so are the walks over the two name servers;
- `Dns.Server.texts_of_pieces`: what the pieces of texts say, and what does not depend on them.
-/

namespace SenderPolicy

/-! ## The text of pieces -/

namespace Dns.Link

open Text.Utf8 (StartsWhole encode)

/-- The text of pieces is that of their bytes put together, if no piece starts inside a character. -/
theorem pieceText_eq_ok_iff {pieces : List (List UInt8)} {text : String} :
    pieceText pieces = .ok text ↔ pieces.flatten = encode text.toList ∧ ∀ p ∈ pieces, StartsWhole p := by
  rw [← Text.Utf8.decode_eq_ok_iff, ← Text.Utf8.decode_flatten_iff, pieceText, Except.bind_eq_ok_iff]
  constructor
  · rintro ⟨ts, h, ht⟩
    cases ht
    exact ⟨ts, Except.mapM_eq_ok_iff.1 h, String.toList_ofList.symm⟩
  · rintro ⟨ts, h, ht⟩
    refine ⟨ts, Except.mapM_eq_ok_iff.2 h, ?_⟩
    rw [ht, String.ofList_toList]
    rfl

/-- Texts are read one by one. -/
theorem recordTexts_eq_ok_iff {name : String} {records : List (List (List UInt8))} {texts : List String} :
    recordTexts name records = .ok texts ↔
      records.map List.flatten = texts.map (fun text => encode text.toList) ∧
        ∀ pieces ∈ records, ∀ p ∈ pieces, StartsWhole p := by
  rw [recordTexts, Except.mapError_eq_ok_iff, Except.mapM_eq_ok_iff]
  induction records generalizing texts with
  | nil => cases texts <;> simp
  | cons pieces records ih =>
    cases texts with
    | nil => simp
    | cons text texts =>
      simp only [List.map_cons, List.cons.injEq, pieceText_eq_ok_iff, ih, List.forall_mem_cons]
      constructor
      · rintro ⟨⟨h, whole⟩, hs, wholes⟩
        exact ⟨⟨h, hs⟩, whole, wholes⟩
      · rintro ⟨⟨h, hs⟩, whole, wholes⟩
        exact ⟨⟨h, whole⟩, hs, wholes⟩

/-- Texts are refused because of one of them: it is not UTF-8, or a piece of it starts inside a character. -/
theorem recordTexts_eq_error {name : String} {records : List (List (List UInt8))} {e : Error}
    (h : recordTexts name records = .error e) :
    (∃ fault, e = .notText name fault) ∧
      ∃ pieces ∈ records, (∀ text : String, pieces.flatten ≠ encode text.toList) ∨ ∃ p ∈ pieces, ¬ StartsWhole p := by
  obtain ⟨fault, hf, rfl⟩ := Except.mapError_eq_error_iff.1 h
  obtain ⟨pieces, hp, hr⟩ := Except.exists_of_mapM_eq_error hf
  refine ⟨⟨fault, rfl⟩, pieces, hp, ?_⟩
  by_cases whole : ∀ p ∈ pieces, StartsWhole p
  · left
    intro text ht
    rw [pieceText_eq_ok_iff.2 ⟨ht, whole⟩] at hr
    cases hr
  · exact .inr (by simpa using whole)

end Dns.Link

/-! ## Name servers that cut texts at other places -/

/-- The error without the place of a fault in a text. -/
def Error.unplaced : Error → Error
  | .notText name _ => .notText name ⟨0, none⟩
  | e => e

namespace Dns

/-- The datum with the pieces of a text put together. -/
def Datum.joined : Datum → Datum
  | .txt pieces => .txt [pieces.flatten]
  | d => d

namespace Server

open Text.Utf8 (StartsWhole encode)

/-- The texts at a name, in pieces, if there is an answer. -/
def records (s : Server) (n : Name) : Except String (List (List (List UInt8))) :=
  (s.answer ⟨.txt, n.text⟩).map (·.filterMap Link.pieces?)

/-- The bytes of the texts at a name, each put together from its pieces. -/
def bytes (s : Server) (n : Name) : Except String (List (List UInt8)) :=
  (s.records n).map (·.map List.flatten)

/-- Another name server gives the same answers, but for the places at which texts are cut, and fails the same
questions. -/
def Recuts (s t : Server) : Prop :=
  ∀ q, (t.answer q).map (·.map Datum.joined) = (s.answer q).map (·.map Datum.joined)

/-- The texts at a name are UTF-8, and one of them is cut inside a character. -/
def CutsInside (s : Server) (name : String) : Prop :=
  ∃ n records, Name.ofChars (Name.absolute name.toList) = .ok n ∧ s.records n = .ok records ∧
    (∀ pieces ∈ records, ∃ text : String, pieces.flatten = encode text.toList) ∧
    ∃ pieces ∈ records, ∃ p ∈ pieces, ¬ StartsWhole p

variable {s t : Server}

theorem txt_of_records {name : String} {n : Name} {records : List (List (List UInt8))}
    (hn : Name.ofChars (Name.absolute name.toList) = .ok n) (h : s.records n = .ok records) :
    (Link.up s).resolver.txt name = Link.recordTexts name records := by
  obtain ⟨data, hd, rfl⟩ := Except.map_eq_ok_iff.1 h
  simp only [Link.resolver, Link.data, Link.target, hn, Except.map, hd]
  rfl

theorem txt_of_no_records {name : String} {n : Name} {reason : String}
    (hn : Name.ofChars (Name.absolute name.toList) = .ok n) (h : s.records n = .error reason) :
    (Link.up s).resolver.txt name = .error (.noAnswer name reason) := by
  have hd := Except.map_eq_error_iff.1 h
  simp only [Link.resolver, Link.data, Link.target, hn, Except.map, hd]
  rfl

theorem txt_of_no_name {name : String} {f : NameFault} (h : Name.ofChars (Name.absolute name.toList) = .error f) :
    (Link.up s).resolver.txt name = .error (.noAnswer name ("proto error: " ++ f.message)) := by
  simp only [Link.resolver, Link.data, Link.target, h]
  rfl

/-- What does not look at pieces does not depend on them. -/
theorem Recuts.filterMap_eq {α : Type} (h : s.Recuts t) {f : Datum → Option α} (hf : ∀ d, f d.joined = f d)
    (q : Question) : (t.answer q).map (·.filterMap f) = (s.answer q).map (·.filterMap f) := by
  have joined (x : Except String (List Datum)) :
      x.map (·.filterMap f) = (x.map (·.map Datum.joined)).map (·.filterMap f) := by
    cases x with
    | error reason => rfl
    | ok ds =>
      have same : ds.filterMap f = (ds.map Datum.joined).filterMap f := by
        rw [List.filterMap_map]
        exact congrArg (ds.filterMap ·) (funext fun d => (hf d).symm)
      exact congrArg Except.ok same
  rw [joined, h q, ← joined]

theorem Recuts.data_eq {α : Type} (h : s.Recuts t) {f : Datum → Option α} (hf : ∀ d, f d.joined = f d) (q : Query) :
    (do return (← (Link.up t).data q).filterMap f : Except Error (List α)) =
      do return (← (Link.up s).data q).filterMap f := by
  rw [Link.data, Link.data]
  cases Link.target q with
  | error e => rfl
  | ok question =>
    have answered (u : Server) :
        (do return (← (u.answer question).mapError (Error.noAnswer q.subject)).filterMap f : Except Error (List α)) =
          ((u.answer question).map (·.filterMap f)).mapError (.noAnswer q.subject) := by
      cases u.answer question <;> rfl
    rw [answered, answered, h.filterMap_eq hf]

/-- Only the texts depend on the pieces of texts. -/
theorem Recuts.resolver_eq (h : s.Recuts t) :
    (Link.up t).resolver = { (Link.up s).resolver with txt := (Link.up t).resolver.txt } := by
  have ip : (Link.up t).resolver.ip = (Link.up s).resolver.ip :=
    funext fun name => h.data_eq (fun d => by cases d <;> rfl) (.ip name)
  have mx : (Link.up t).resolver.mx = (Link.up s).resolver.mx :=
    funext fun name => h.data_eq (fun d => by cases d <;> rfl) (.mx name)
  have ptr : (Link.up t).resolver.ptr = (Link.up s).resolver.ptr :=
    funext fun address => h.data_eq (fun d => by cases d <;> rfl) (.ptr address)
  show _ = Resolver.mk _ _ _ _
  rw [← ip, ← mx, ← ptr]

/-- Texts cut at other places have the same bytes. -/
theorem Recuts.bytes_eq (h : s.Recuts t) (n : Name) : t.bytes n = s.bytes n := by
  have put (u : Server) : u.bytes n =
      (u.answer ⟨.txt, n.text⟩).map (·.filterMap fun d => (Link.pieces? d).map List.flatten) := by
    rw [bytes, records]
    cases u.answer ⟨.txt, n.text⟩ <;> simp [Except.map, List.map_filterMap]
  rw [put, put]
  exact h.filterMap_eq (fun d => by cases d <;> simp [Datum.joined, Link.pieces?]) _

/-- Texts are read exactly if there is an answer, they are UTF-8 and no piece starts inside a character. -/
theorem txt_eq_ok_iff {name : String} {texts : List String} :
    (Link.up s).resolver.txt name = .ok texts ↔ ∃ n records, Name.ofChars (Name.absolute name.toList) = .ok n ∧
      s.records n = .ok records ∧ records.map List.flatten = texts.map (fun text => encode text.toList) ∧
      ∀ pieces ∈ records, ∀ p ∈ pieces, StartsWhole p := by
  cases hn : Name.ofChars (Name.absolute name.toList) with
  | error f => simp [txt_of_no_name hn]
  | ok n =>
    cases hr : s.records n with
    | error reason => simp [txt_of_no_records hn hr, hr]
    | ok records => simp [txt_of_records hn hr, Link.recordTexts_eq_ok_iff, hr]

/-- Texts are refused because one of them is not UTF-8, or because it is cut inside a character. -/
theorem txt_eq_error {name : String} {n : Name} {records : List (List (List UInt8))} {e : Error}
    (hn : Name.ofChars (Name.absolute name.toList) = .ok n) (hr : s.records n = .ok records)
    (h : (Link.up s).resolver.txt name = .error e) :
    (∃ fault, e = .notText name fault) ∧
      (s.CutsInside name ∨ ∃ pieces ∈ records, ∀ text : String, pieces.flatten ≠ encode text.toList) := by
  rw [txt_of_records hn hr] at h
  obtain ⟨fault, pieces, hp, refused⟩ := Link.recordTexts_eq_error h
  refine ⟨fault, ?_⟩
  by_cases utf8 : ∀ pieces ∈ records, ∃ text : String, pieces.flatten = encode text.toList
  · rcases refused with refused | cut
    · obtain ⟨text, ht⟩ := utf8 pieces hp
      exact absurd ht (refused text)
    · exact .inl ⟨n, records, hn, hr, utf8, pieces, hp, cut⟩
  · exact .inr (by simpa using utf8)

/-- Texts that are not cut inside a character are read exactly if they are UTF-8. -/
theorem txt_eq_ok_iff_of_not_cutsInside {name : String} {n : Name} {records : List (List (List UInt8))}
    {texts : List String} (hn : Name.ofChars (Name.absolute name.toList) = .ok n) (hr : s.records n = .ok records)
    (h : ¬ s.CutsInside name) :
    (Link.up s).resolver.txt name = .ok texts ↔
      records.map List.flatten = texts.map fun text => encode text.toList := by
  constructor
  · intro ht
    rw [txt_of_records hn hr] at ht
    exact (Link.recordTexts_eq_ok_iff.1 ht).1
  · intro said
    cases ht : (Link.up s).resolver.txt name with
    | ok texts' =>
      rw [txt_of_records hn hr] at ht
      have same := (Link.recordTexts_eq_ok_iff.1 ht).1.symm.trans said
      rw [List.map_inj_right fun _ _ h => String.toList_inj.1 (Text.Utf8.encode_inj.1 h)] at same
      rw [same]
    | error e =>
      obtain ⟨-, cut | ⟨pieces, hp, refused⟩⟩ := txt_eq_error hn hr ht
      · exact absurd cut h
      · have hb := List.mem_map_of_mem (f := List.flatten) hp
        rw [said] at hb
        obtain ⟨text, -, ht⟩ := List.mem_map.1 hb
        exact absurd ht.symm (refused text)

/-- Texts cut at other places, but not inside a character, are the same but for the place of a fault. -/
theorem txt_unplaced_eq (h : s.Recuts t) {name : String} (cs : ¬ s.CutsInside name) (ct : ¬ t.CutsInside name) :
    ((Link.up s).resolver.txt name).mapError Error.unplaced =
      ((Link.up t).resolver.txt name).mapError Error.unplaced := by
  cases hn : Name.ofChars (Name.absolute name.toList) with
  | error f => rw [txt_of_no_name hn, txt_of_no_name hn]
  | ok n =>
    have same := h.bytes_eq n
    cases hr : s.records n with
    | error reason =>
      rw [bytes, bytes, hr] at same
      rw [txt_of_no_records hn hr, txt_of_no_records hn (Except.map_eq_error_iff.1 same)]
    | ok records =>
      rw [bytes, bytes, hr] at same
      obtain ⟨records', hr', flat⟩ := Except.map_eq_ok_iff.1 same
      have read (texts : List String) :
          (Link.up s).resolver.txt name = .ok texts ↔ (Link.up t).resolver.txt name = .ok texts := by
        rw [txt_eq_ok_iff_of_not_cutsInside hn hr cs, txt_eq_ok_iff_of_not_cutsInside hn hr' ct, flat]
      cases hs : (Link.up s).resolver.txt name with
      | ok texts => rw [(read texts).1 hs]
      | error e =>
        obtain ⟨⟨fault, rfl⟩, -⟩ := txt_eq_error hn hr hs
        cases ht : (Link.up t).resolver.txt name with
        | ok texts => rw [(read texts).2 ht] at hs; cases hs
        | error e' =>
          obtain ⟨⟨fault', rfl⟩, -⟩ := txt_eq_error hn hr' ht
          rfl

end Server

end Dns

/-! ## Runs that are the same but for cuts -/

/-- The end of a walk without the place of a fault in a text. -/
def Halt.unplaced : Halt → Halt
  | .failure e => .failure e.unplaced
  | .unfinished => .unfinished

namespace Dns.Server

open Text.Utf8 (StartsWhole encode)

variable {s t : Server} {α β : Type}

/-- A run stops at a text that is UTF-8, because it is cut inside a character. -/
def StopsAtCut (s : Server) (x : Run Halt α) : Prop :=
  ∃ name fault, s.CutsInside name ∧ x.result = .error (.failure (.notText name fault))

/-- Two runs are the same, questions and result, but for the place of a fault in a text; unless one of them stops at a
text that is UTF-8, because it is cut inside a character. -/
def SameButCuts (s t : Server) (x y : Run Halt α) : Prop :=
  x.mapError Halt.unplaced = y.mapError Halt.unplaced ∨ s.StopsAtCut x ∨ t.StopsAtCut y

theorem SameButCuts.refl (x : Run Halt α) : s.SameButCuts t x x :=
  .inl rfl

theorem StopsAtCut.bind {x : Run Halt α} (h : s.StopsAtCut x) (f : α → Run Halt β) : s.StopsAtCut (x >>= f) := by
  obtain ⟨name, fault, cut, hx⟩ := h
  exact ⟨name, fault, cut, by rw [Run.bind_of_error hx]⟩

theorem StopsAtCut.of_bind {x : Run Halt α} {a : α} {f : α → Run Halt β} (hx : x.result = .ok a)
    (h : s.StopsAtCut (f a)) : s.StopsAtCut (x >>= f) := by
  obtain ⟨name, fault, cut, hf⟩ := h
  exact ⟨name, fault, cut, by rw [Run.bind_of_ok hx, hf]⟩

/-- One run after another is the same but for cuts, if both are. -/
theorem SameButCuts.bind {x y : Run Halt α} {f g : α → Run Halt β} (h : s.SameButCuts t x y)
    (hf : ∀ a, s.SameButCuts t (f a) (g a)) : s.SameButCuts t (x >>= f) (y >>= g) := by
  rcases h with h | h | h
  · cases hx : x.result with
    | error e =>
      have first : (x.mapError Halt.unplaced).result = .error e.unplaced := by rw [Run.result_mapError, hx]; rfl
      left
      rw [Run.mapError_bind, Run.mapError_bind, ← h, Run.bind_of_error first, Run.bind_of_error first]
    | ok a =>
      have first : (x.mapError Halt.unplaced).result = .ok a := by rw [Run.result_mapError, hx]; rfl
      have hy : y.result = .ok a := Except.mapError_eq_ok_iff.1 (h ▸ first)
      rcases hf a with h' | h' | h'
      · left
        rw [Run.mapError_bind, Run.mapError_bind, ← h, Run.bind_of_ok first, Run.bind_of_ok first, h']
      · exact .inr (.inl (h'.of_bind hx))
      · exact .inr (.inr (h'.of_bind hy))
  · exact .inr (.inl (h.bind f))
  · exact .inr (.inr (h.bind g))

/-! ## Walks -/

/-- The question for texts that are cut inside a character stops there. -/
theorem stopsAtCut_askTxt {name : String} (cut : s.CutsInside name) :
    s.StopsAtCut (((Link.up s).resolver.askTxt name).mapError .failure) := by
  have ⟨n, records, hn, hr, utf8, pieces, hp, p, hpp, inside⟩ := cut
  cases ht : (Link.up s).resolver.txt name with
  | ok texts =>
    rw [txt_of_records hn hr] at ht
    exact absurd ((Link.recordTexts_eq_ok_iff.1 ht).2 pieces hp p hpp) inside
  | error e =>
    obtain ⟨⟨fault, rfl⟩, -⟩ := txt_eq_error hn hr ht
    exact ⟨name, fault, cut, by rw [Run.result_mapError, Resolver.askTxt, Run.ask, ht]; rfl⟩

/-- The texts at a name are the same but for cuts. -/
theorem sameButCuts_askTxt (h : s.Recuts t) (name : String) :
    s.SameButCuts t (((Link.up s).resolver.askTxt name).mapError .failure)
      (((Link.up t).resolver.askTxt name).mapError .failure) := by
  by_cases cs : s.CutsInside name
  · exact .inr (.inl (stopsAtCut_askTxt cs))
  by_cases ct : t.CutsInside name
  · exact .inr (.inr (stopsAtCut_askTxt ct))
  have unplaced (u : Server) : (((Link.up u).resolver.askTxt name).mapError .failure).mapError Halt.unplaced =
      ⟨(((Link.up u).resolver.txt name).mapError Error.unplaced).mapError .failure, [.txt name]⟩ := by
    rw [Resolver.askTxt, Run.ask]
    cases (Link.up u).resolver.txt name <;> rfl
  left
  rw [unplaced, unplaced, txt_unplaced_eq h cs ct]

/-- The policy text of a domain is the same but for cuts. -/
theorem sameButCuts_policyText (h : s.Recuts t) (domain : String) :
    s.SameButCuts t (((Link.up s).resolver.policyText domain).mapError .failure)
      (((Link.up t).resolver.policyText domain).mapError .failure) := by
  rw [Resolver.policyText, Resolver.policyText, Run.mapError_bind, Run.mapError_bind]
  exact (sameButCuts_askTxt h domain).bind fun texts => .refl _

section

variable {i : Inquiry}

/-- One directive is the same but for cuts, if the policies nested in it are. -/
theorem sameButCuts_execute (h : s.Recuts t) (hi : i.resolver = (Link.up s).resolver)
    (nested : i.CanNest → ∀ domain,
      s.SameButCuts t (i.deeper.validate domain) ((i.deeper.asking (Link.up t).resolver).validate domain))
    (publisher : String) (d : Directive) :
    s.SameButCuts t (i.execute publisher d) ((i.asking (Link.up t).resolver).execute publisher d) := by
  cases hd : d.nests with
  | false =>
    obtain ⟨test, ht⟩ := Directive.exists_test_of_not_nests hd i.resolver i.sender publisher
    have ht' : d.test? (Link.up t).resolver i.sender publisher = some test := by
      rw [← ht, hi, h.resolver_eq]
      cases hm : d.mechanism <;> simp only [Directive.test?, hm] <;> rfl
    rw [Inquiry.execute_of_test ht, Inquiry.execute_of_test (i := i.asking (Link.up t).resolver) ht']
    exact .refl _
  | true =>
    rw [Inquiry.execute_of_nests hd, Inquiry.execute_of_nests hd]
    refine SameButCuts.bind ?_ fun q => .refl _
    exact Inquiry.nested_rel (i := i) (j := i.asking (Link.up t).resolver) rfl rfl (fun _ => .refl _)
      fun hc => nested hc d.value

/-- A policy is the same but for cuts, if the policies nested in it are. -/
theorem sameButCuts_evaluate (h : s.Recuts t) (hi : i.resolver = (Link.up s).resolver)
    (nested : i.CanNest → ∀ domain,
      s.SameButCuts t (i.deeper.validate domain) ((i.deeper.asking (Link.up t).resolver).validate domain))
    (publisher : String) (record : Record) :
    s.SameButCuts t (i.evaluate publisher record) ((i.asking (Link.up t).resolver).evaluate publisher record) :=
  firstVerdict_rel (fun _ => .refl _) SameButCuts.bind fun d _ => sameButCuts_execute h hi nested publisher d

/-- A policy text is the same but for cuts, if the policies nested in it are. -/
theorem sameButCuts_validateText (h : s.Recuts t) (hi : i.resolver = (Link.up s).resolver)
    (nested : i.CanNest → ∀ domain,
      s.SameButCuts t (i.deeper.validate domain) ((i.deeper.asking (Link.up t).resolver).validate domain))
    (publisher text : String) :
    s.SameButCuts t (i.validateText publisher text) ((i.asking (Link.up t).resolver).validateText publisher text) :=
  SameButCuts.bind (.refl _) fun record => sameButCuts_evaluate h hi nested publisher record

/-- A walk is the same but for cuts. -/
theorem sameButCuts_validate (h : s.Recuts t) (i : Inquiry) : i.resolver = (Link.up s).resolver → ∀ domain,
    s.SameButCuts t (i.validate domain) ((i.asking (Link.up t).resolver).validate domain) := by
  induction i using Inquiry.nesting_induction with
  | step i ih =>
    intro hi domain
    have lookup := sameButCuts_policyText h domain
    rw [← hi] at lookup
    exact SameButCuts.bind lookup fun text => sameButCuts_validateText h hi (fun hc => ih hc hi) domain text

end

/-- **What the pieces of texts say.** The texts that are read at a name are those that the bytes of the pieces, put
together, encode in UTF-8, if there is an answer and no piece starts inside a character; otherwise nothing is read. So far
as no text is cut inside a character, nothing depends on where texts are cut: not the texts, not the policy text of a
domain, and no verdict, with the same questions on the way. -/
theorem texts_of_pieces (s t : Server) (h : s.Recuts t) :
    (∀ name texts, (Link.up s).resolver.txt name = .ok texts ↔
      ∃ n records, Name.ofChars (Name.absolute name.toList) = .ok n ∧ s.records n = .ok records ∧
        records.map List.flatten = texts.map (fun text => encode text.toList) ∧
        ∀ pieces ∈ records, ∀ p ∈ pieces, StartsWhole p) ∧
    (∀ name, s.SameButCuts t (((Link.up s).resolver.askTxt name).mapError .failure)
      (((Link.up t).resolver.askTxt name).mapError .failure)) ∧
    (∀ domain, s.SameButCuts t (((Link.up s).resolver.policyText domain).mapError .failure)
      (((Link.up t).resolver.policyText domain).mapError .failure)) ∧
    ∀ sender b fuel domain,
      let i := Inquiry.mk (Link.up s).resolver sender b fuel
      let j := Inquiry.mk (Link.up t).resolver sender b fuel
      s.SameButCuts t (i.validate domain) (j.validate domain) ∧
      (∀ text, s.SameButCuts t (i.validateText domain text) (j.validateText domain text)) ∧
      ∀ d, s.SameButCuts t (i.execute domain d) (j.execute domain d) := by
  refine ⟨fun name texts => txt_eq_ok_iff, sameButCuts_askTxt h, sameButCuts_policyText h, fun sender b fuel domain => ?_⟩
  have nested (i : Inquiry) (hi : i.resolver = (Link.up s).resolver) :
      i.CanNest → ∀ domain,
        s.SameButCuts t (i.deeper.validate domain) ((i.deeper.asking (Link.up t).resolver).validate domain) :=
    fun _ => sameButCuts_validate h i.deeper hi
  exact ⟨sameButCuts_validate h ⟨_, sender, b, fuel⟩ rfl domain,
    sameButCuts_validateText h rfl (nested _ rfl) domain, sameButCuts_execute h rfl (nested _ rfl) domain⟩

/-- A name server with one policy, in pieces, that fails every other question. -/
def publishing (pieces : List (List UInt8)) : Server :=
  ⟨fun q => if q = ⟨.txt, "_spf"⟩ then .ok [.txt pieces] else .error "timeout"⟩

/-- The bytes of the policy `v=spf1 all exists:é` in front of its last character. -/
def accented : List UInt8 :=
  [0x76, 0x3D, 0x73, 0x70, 0x66, 0x31, 0x20, 0x61, 0x6C, 0x6C, 0x20, 0x65, 0x78, 0x69, 0x73, 0x74, 0x73, 0x3A]

/-- Texts of the same bytes say the same. -/
theorem recuts_publishing {ps ps' : List (List UInt8)} (h : ps'.flatten = ps.flatten) :
    (publishing ps).Recuts (publishing ps') := by
  intro q
  simp only [publishing]
  split
  · simp [Except.map, Datum.joined, h]
  · rfl

theorem texts_of_pieces_accented :
    let cut := publishing [accented, [], [0xC3, 0xA9]]
    let whole := publishing [accented ++ [0xC3, 0xA9]]
    let inquiry (s : Server) := Inquiry.mk (Link.up s).resolver (.v4 0xC0000201#32) (.ofInt 0) 0
    cut.Recuts whole ∧ (Link.up cut).resolver.txt "_spf" = .ok ["v=spf1 all exists:é"] ∧
      cut.SameButCuts whole ((inquiry cut).validate "_spf") ((inquiry whole).validate "_spf") ∧
      ((inquiry whole).validate "_spf").result = .ok .pass := by
  have recut : (publishing [accented, [], [0xC3, 0xA9]]).Recuts (publishing [accented ++ [0xC3, 0xA9]]) :=
    recuts_publishing rfl
  obtain ⟨texts, -, -, walks⟩ := texts_of_pieces _ _ recut
  refine ⟨recut, (texts "_spf" _).2 ⟨⟨["_spf".toList]⟩, _, rfl, rfl, rfl, ?_⟩,
    (walks (.v4 0xC0000201#32) (.ofInt 0) 0 "_spf").1, rfl⟩
  show ∀ pieces ∈ [[accented, [], [0xC3, 0xA9]]], ∀ p ∈ pieces, StartsWhole p
  simp [StartsWhole, accented, Text.Utf8.isContinuation]

/-- A text cut inside a character is refused. -/
theorem not_forall_recuts :
    ¬ ∀ s t : Server, s.Recuts t → ∀ name,
      (∃ texts, (Link.up s).resolver.txt name = .ok texts ∧ (Link.up t).resolver.txt name = .ok texts) ∨
      ∃ e e', (Link.up s).resolver.txt name = .error e ∧ (Link.up t).resolver.txt name = .error e' := by
  intro h
  have read : (Link.up (publishing [accented ++ [0xC3, 0xA9]])).resolver.txt "_spf" = .ok ["v=spf1 all exists:é"] := rfl
  have refused : (Link.up (publishing [accented ++ [0xC3], [0xA9]])).resolver.txt "_spf" =
      .error (.notText "_spf" ⟨18, none⟩) := rfl
  have recut : (publishing [accented ++ [0xC3, 0xA9]]).Recuts (publishing [accented ++ [0xC3], [0xA9]]) :=
    recuts_publishing rfl
  rcases h _ _ recut "_spf" with ⟨texts, -, ht⟩ | ⟨e, e', hs, -⟩
  · cases refused.symm.trans ht
  · cases read.symm.trans hs

end Dns.Server

end SenderPolicy
