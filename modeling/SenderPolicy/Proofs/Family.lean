import SenderPolicy.Proofs.Containment
import SenderPolicy.Proofs.Walk

/-!
# The family of a network

An `ip4` and an `ip6` with the same value are the same directive: both match the senders of the network that the value
writes. The family of that network shows in the text, which has a colon if it writes an IPv6 network and none otherwise, and
a sender of the other family is in no such network, whatever the mechanism is called.

- `Network.colon_mem_iff`: which texts write networks of which family;
- `Address.isFour_iff`: senders that count as IPv4;
- `Inquiry.execute_network`: when a directive with a network has a verdict, and of which family the sender then is;
- `Inquiry.not_forall_own_family`: the name of the mechanism does not tell the family.
-/

namespace SenderPolicy

open Text

/-! ## Senders -/

namespace Address

/-- A sender counts as IPv4: it is an IPv4 address or the IPv6 form of one. -/
def IsFour (s : Address) : Prop :=
  ∃ a, s = v4 a ∨ s = v6 (mapped a)

/-- A sender counts as IPv4 exactly if it stands for an IPv4 address. -/
theorem isFour_iff {s : Address} : s.IsFour ↔ ∃ a, s.canonical = v4 a := by
  refine exists_congr fun a => ?_
  rw [← standsFor_iff, StandsFor]
  constructor
  · rintro (rfl | rfl)
    · exact .inr ⟨by simp, rfl⟩
    · exact .inl ⟨a, rfl, rfl⟩
  · rintro (⟨b, rfl, hb⟩ | ⟨-, rfl⟩)
    · cases hb
      exact .inr rfl
    · exact .inl rfl

/-- A text with a colon is no IPv4 address. -/
theorem v4?_eq_none_of_colon {s : List Char} (h : ':' ∈ s) : v4? s = none := by
  rw [Option.eq_none_iff_forall_ne_some]
  intro a ha
  simp only [v4?, Option.bind_eq_bind, Option.bind_eq_some_iff] at ha
  obtain ⟨ps, hps, -⟩ := ha
  rw [Option.mapM_eq_some_iff] at hps
  have joined : ['.'].intercalate (s.splitOn '.') = s := List.intercalate_splitOn '.'
  rw [← joined] at h
  rcases mem_intercalate h with h | ⟨p, hp, hc⟩
  · cases h
  · -- the part with the colon is no octet
    have octet : octet? p = none := by
      rw [octet?, readNat?_eq_none_of_mem (by decide) hc]
      split <;> rfl
    have found := List.mem_map_of_mem (f := octet?) hp
    rw [octet, hps] at found
    simp at found

/-- The family of an address shows in its text. -/
theorem colon_mem_iff_of_ofChars? {s : List Char} {a : Address} (h : ofChars? s = some a) :
    ':' ∈ s ↔ ∃ b, a = v6 b := by
  constructor
  · intro hc
    rw [ofChars?, v4?_eq_none_of_colon hc] at h
    obtain ⟨b, -, rfl⟩ := Option.map_eq_some_iff.1 h
    exact ⟨b, rfl⟩
  · rintro ⟨b, rfl⟩
    apply Decidable.byContradiction
    intro hc
    rw [ofChars?, v6?_eq_none_of_notMem hc] at h
    cases h4 : v4? s <;> simp [h4] at h

end Address

/-! ## Networks -/

namespace Network

/-- A number of bits is written without colons. -/
theorem colon_notMem_of_length? {s : List Char} {n : Nat} (h : length? s = some n) : ':' ∉ s := by
  intro hc
  have number : readUnsigned? s = none := by
    unfold readUnsigned?
    split
    · exact readNat?_eq_none_of_mem (c := ':') (by decide) (by simpa using hc)
    · exact readNat?_eq_none_of_mem (by decide) hc
  rw [length?, number] at h
  cases h

/-- So is a number of bits or a netmask. -/
theorem colon_notMem_of_v4Length? {s : List Char} {n : Nat} (h : v4Length? s = some n) : ':' ∉ s := by
  intro hc
  rw [v4Length?, Address.v4?_eq_none_of_colon hc] at h
  exact colon_notMem_of_length? h hc

/-- The family of a network shows in the part in front of the slash, and there is no colon behind it. -/
theorem colon_mem_iff_of_ofParts? {address length : List Char} {n : Network} (h : ofParts? address length = some n) :
    (':' ∈ address ↔ ∃ b, n = v6 b) ∧ ':' ∉ length := by
  rw [ofParts?] at h
  cases ha : Address.ofChars? address with
  | none => rw [ha] at h; cases h
  | some a =>
    rw [Address.colon_mem_iff_of_ofChars? ha]
    cases a with
    | v4 a =>
      simp only [ha, Option.bind_eq_some_iff, Option.map_eq_some_iff] at h
      obtain ⟨k, hk, b, -, rfl⟩ := h
      exact ⟨by simp, colon_notMem_of_v4Length? hk⟩
    | v6 a =>
      simp only [ha, Option.bind_eq_some_iff, Option.map_eq_some_iff] at h
      obtain ⟨k, hk, b, -, rfl⟩ := h
      exact ⟨by simp, colon_notMem_of_length? hk⟩

/-- The number of bits that a text lacks has no colon. -/
theorem colon_mem_withLength_iff {s : List Char} : ':' ∈ withLength s ↔ ':' ∈ s := by
  unfold withLength
  split
  · rfl
  · split <;> simp_all

/-- Blanks around a text have no colon. -/
theorem colon_mem_trim_iff {s : List Char} : ':' ∈ trim s ↔ ':' ∈ s := by
  obtain ⟨front, back, hs, hfront, hback, -⟩ := exists_eq_append_trim s
  have blank {t : List Char} (ht : ∀ c ∈ t, isBlank c = true) : ':' ∉ t := fun hc => absurd (ht ':' hc) (by decide)
  have whole : ':' ∈ s ↔ ':' ∈ front ++ (trim s ++ back) := by rw [← hs]
  rw [whole]
  simp [blank hfront, blank hback]

/-- A text with a colon writes an IPv6 network, and one without a colon an IPv4 network, if it writes a network. -/
theorem colon_mem_iff {value : String} {n : Network} (h : ofText value = .ok n) :
    ':' ∈ value.toList ↔ ∃ b, n = v6 b := by
  rw [← colon_mem_trim_iff, ← colon_mem_withLength_iff]
  simp only [ofText] at h
  generalize withLength (trim value.toList) = t at h
  cases hn : ofChars? t with
  | none => rw [hn] at h; cases h
  | some m =>
    rw [hn] at h
    cases h
    rw [ofChars?] at hn
    split at hn
    · rename_i address length cut
      obtain ⟨family, number⟩ := colon_mem_iff_of_ofParts? hn
      have joined : ['/'].intercalate (t.splitOn '/') = t := List.intercalate_splitOn '/'
      rw [cut, List.intercalate_cons_cons, List.intercalate_singleton] at joined
      rw [← family, ← joined]
      simp [number]
    · cases hn

/-- A network holds senders of its own family only. -/
theorem isFour_iff_of_contains {n : Network} {s : Address} (h : n.contains s.canonical = true) :
    s.IsFour ↔ ∃ b, n = v4 b := by
  rw [Address.isFour_iff]
  cases n with
  | v4 b => cases hs : s.canonical <;> simp_all [contains]
  | v6 b => cases hs : s.canonical <;> simp_all [contains]

end Network

/-! ## Directives -/

namespace Inquiry

/-- **A directive with a network has a verdict exactly if its value writes a network that holds the sender**, be it an `ip4`
or an `ip6`. The sender then counts as IPv4 if the value has no colon, and is an IPv6 address that does not if it has
one. -/
theorem execute_network (i : Inquiry) (publisher value : String) {m : Mechanism} {q : Qualifier}
    (network : m = .ip4 ∨ m = .ip6) (verdict : q ≠ .none) :
    let matched := (i.execute publisher ⟨q, m, value⟩).result = .ok q
    (matched ↔ ∃ n, Network.ofText value = .ok n ∧ n.contains i.sender.canonical = true) ∧
    (matched → (':' ∉ value.toList ∧ i.sender.IsFour) ∨
      (':' ∈ value.toList ∧ ∃ a, i.sender = .v6 a ∧ ∀ b, a ≠ Address.mapped b)) := by
  intro matched
  have tested : matched ↔ ∃ n, Network.ofText value = .ok n ∧ n.contains i.sender.canonical = true := by
    have ht : Directive.test? i.resolver i.sender publisher ⟨q, m, value⟩ =
        some (.ofExcept (matchesNetwork i.sender value)) := by
      rcases network with rfl | rfl <;> rfl
    rw [← matchesNetwork_eq_ok_iff]
    simp only [matched, execute_of_test ht, Directive.onMatch_eq, Except.mapError_eq_ok_iff, Except.map_eq_ok_iff,
      Run.result_ofExcept]
    constructor
    · rintro ⟨b, hb, hq⟩
      cases b with
      | true => exact hb
      | false => exact absurd hq.symm verdict
    · intro h
      exact ⟨true, h, rfl⟩
  refine ⟨tested, fun h => ?_⟩
  obtain ⟨n, hn, hc⟩ := tested.1 h
  have family := Network.isFour_iff_of_contains hc
  have colon := Network.colon_mem_iff hn
  cases n with
  | v4 b =>
    refine .inl ⟨fun h => ?_, family.2 ⟨b, rfl⟩⟩
    obtain ⟨_, hb⟩ := colon.1 h
    cases hb
  | v6 b =>
    refine .inr ⟨colon.2 ⟨b, rfl⟩, ?_⟩
    have other : ¬ i.sender.IsFour := fun h => by
      obtain ⟨_, hb⟩ := family.1 h
      cases hb
    cases hs : i.sender with
    | v4 a => exact absurd ⟨a, .inl hs⟩ other
    | v6 a => exact ⟨a, rfl, fun b hb => other ⟨b, .inr (by rw [hs, hb])⟩⟩

/-- An `ip6` with an IPv4 network, tested with the IPv6 form of an IPv4 address. -/
theorem execute_network_mapped :
    let i : Inquiry := ⟨Zone.chain.resolver, .v6 0xFFFFC0000201#128, .ofInt 2, 0⟩
    (i.execute "a.example" ⟨.softfail, .ip6, " 192.0.2.0/255.255.255.0"⟩).result = .ok .softfail ∧
      ':' ∉ " 192.0.2.0/255.255.255.0".toList ∧ i.sender.IsFour := by
  intro i
  have matched : (i.execute "a.example" ⟨.softfail, .ip6, " 192.0.2.0/255.255.255.0"⟩).result = .ok .softfail := rfl
  have family := (i.execute_network "a.example" " 192.0.2.0/255.255.255.0" (m := .ip6) (q := .softfail)
    (.inr rfl) (by decide)).2 matched
  rcases family with h | ⟨h, -⟩
  · exact ⟨matched, h⟩
  · exact absurd h (by decide)

/-- The name of the mechanism does not tell the family: an `ip4` may match an IPv6 address, and an `ip6` an IPv4
address. -/
theorem not_forall_own_family :
    ¬ ∀ (i : Inquiry) (publisher value : String) (q : Qualifier), 0 ≤ i.budget.depth.toInt → q ≠ .none →
      ((i.execute publisher ⟨q, .ip4, value⟩).result = .ok q → i.sender.IsFour) ∧
      ((i.execute publisher ⟨q, .ip6, value⟩).result = .ok q →
        ∃ a, i.sender = .v6 a ∧ ∀ b, a ≠ Address.mapped b) := by
  intro own
  let i : Inquiry := ⟨Zone.chain.resolver, .v6 0x20010DB8000000000000000000000001#128, .ofInt 10, 0⟩
  have matched : (i.execute "a.example" ⟨.pass, .ip4, "2001:db8::/32"⟩).result = .ok .pass := rfl
  have four := (own i "a.example" "2001:db8::/32" .pass (by decide) (by decide)).1 matched
  obtain ⟨a, ha⟩ := Address.isFour_iff.1 four
  cases ha

end Inquiry

end SenderPolicy
