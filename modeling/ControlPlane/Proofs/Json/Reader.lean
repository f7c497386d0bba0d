import ControlPlane.Json.Reader
import ControlPlane.Proofs.Json.Members
import ControlPlane.Proofs.Sequencing

/-!
# What is read is well formed

A reader holds a number as an integer or a double only within their ranges, and takes each member of an
object into its place. So whatever bytes are read, the value that comes out is well formed, and what is
proved of well-formed values holds of every document.

## Main statements

* `Json.forall_of_readItems`, `Json.of_readMembers` : what holds of each part holds of the whole.
* `Json.wellFormed_of_readValue`, `Json.wellFormed_of_parse` : what is read is well formed.
-/

namespace ControlPlane

theorem Binary64.isFinite_of_ofDecimal? {negative : Bool} {digits : Nat} {exponent : Int}
    {x : Binary64} (h : ofDecimal? negative digits exponent = some x) : x.isFinite = true := by
  have hzero : (nearest negative 0 1).isFinite = true := by cases negative <;> decide
  unfold ofDecimal? at h
  split at h
  · exact Option.some.inj h ▸ hzero
  · split at h
    · exact absurd h (by simp)
    · split at h
      · exact Option.some.inj h ▸ hzero
      · obtain ⟨hfinite, hx⟩ := Option.ite_none_right_eq_some.1 h
        exact Option.some.inj hx ▸ hfinite

namespace Json

variable {text rest : Bytes} {v : Json}

/-! ### Scalars -/

theorem wellFormed_of_heldInteger? {negative : Bool} {n : Nat} {k : Int}
    (h : heldInteger? negative n = some k) : (Json.integer k).WellFormed := by
  have hbound : (0 : Int) < integerBound := by decide
  have hleast : leastInteger ≤ 0 := by decide
  rw [WellFormed]
  unfold heldInteger? at h
  split at h
  · obtain ⟨⟨-, hn⟩, hk⟩ := Option.ite_none_right_eq_some.1 h
    obtain rfl := Option.some.inj hk
    exact ⟨hn, by omega⟩
  · obtain ⟨hn, hk⟩ := Option.ite_none_right_eq_some.1 h
    obtain rfl := Option.some.inj hk
    exact ⟨by omega, hn⟩

theorem wellFormed_of_readNumber {negative : Bool}
    (h : readNumber negative text = .ok (v, rest)) : v.WellFormed := by
  obtain ⟨⟨whole, afterWhole⟩, -, h⟩ := bind_eq_ok.1 h
  obtain ⟨⟨fraction, afterFraction⟩, -, h⟩ := bind_eq_ok.1 h
  obtain ⟨⟨exponent, afterExponent⟩, -, h⟩ := bind_eq_ok.1 h
  dsimp only at h
  split at h
  · next hn =>
    obtain ⟨rfl, -⟩ := Prod.mk.inj (Except.ok.inj h)
    exact wellFormed_of_heldInteger? hn
  · split at h
    · next hx =>
      obtain ⟨rfl, -⟩ := Prod.mk.inj (Except.ok.inj h)
      rw [WellFormed]
      exact Binary64.isFinite_of_ofDecimal? hx
    · exact absurd h (by simp)

/-- Behind its first letter a word stands for one value. -/
private theorem eq_of_readWord {letters : Bytes} {w : Json}
    (h : (do return (w, ← readWord letters text)) = Except.ok (v, rest)) : v = w := by
  obtain ⟨_, -, h⟩ := bind_eq_ok.1 h
  exact (Prod.mk.inj (Except.ok.inj h)).1.symm

theorem wellFormed_of_readScalar (h : readScalar text = .ok (v, rest)) : v.WellFormed := by
  unfold readScalar at h
  split at h
  · exact absurd h (by simp)
  · split_ifs at h
    · obtain rfl := eq_of_readWord h
      trivial
    · obtain rfl := eq_of_readWord h
      trivial
    · obtain rfl := eq_of_readWord h
      trivial
    · exact wellFormed_of_readNumber h
    · exact wellFormed_of_readNumber h
    · obtain ⟨_, -, h⟩ := bind_eq_ok.1 h
      obtain ⟨rfl, -⟩ := Prod.mk.inj (Except.ok.inj h)
      trivial

/-! ### Lists and members -/

section Parts

variable {ε α : Type} {fault : Malformed → ε}

private theorem forall_of_readItemsFrom {P : α → Prop} {item : Bytes → Except ε (α × Bytes)}
    (hitem : ∀ text a rest, item text = .ok (a, rest) → P a) {fuel : Nat} {text rest : Bytes}
    {items : List α} (h : readItemsFrom fault item fuel text = .ok (items, rest)) :
    ∀ a ∈ items, P a := by
  induction fuel generalizing text rest items with
  | zero => exact absurd h (by simp [readItemsFrom])
  | succ fuel ih =>
    obtain ⟨⟨first, afterFirst⟩, hfirst, h⟩ := bind_eq_ok.1 h
    have hp : P first := hitem _ _ _ hfirst
    obtain ⟨continuation, -, h⟩ := bind_eq_ok.1 h
    cases continuation with
    | closed =>
      obtain ⟨rfl, -⟩ := Prod.mk.inj (Except.ok.inj h)
      exact List.forall_mem_singleton.2 hp
    | next part =>
      obtain ⟨⟨others, _⟩, hothers, h⟩ := bind_eq_ok.1 h
      obtain ⟨rfl, -⟩ := Prod.mk.inj (Except.ok.inj h)
      exact List.forall_mem_cons.2 ⟨hp, ih hothers⟩

/-- What holds of everything that can be read as an item holds of each item of a list. -/
theorem forall_of_readItems {P : α → Prop} {item : Bytes → Except ε (α × Bytes)}
    (hitem : ∀ text a rest, item text = .ok (a, rest) → P a) {items : List α}
    (h : readItems fault item text = .ok (items, rest)) : ∀ a ∈ items, P a := by
  unfold readItems at h
  split at h
  · exact absurd h (by simp)
  · split at h
    · obtain ⟨rfl, -⟩ := Prod.mk.inj (Except.ok.inj h)
      exact List.forall_mem_nil P
    · exact forall_of_readItemsFrom hitem h

private theorem of_readMembersFrom {P : α → Prop} {member : α → String → Bytes → Except ε (α × Bytes)}
    (hmember : ∀ a key text b rest, P a → member a key text = .ok (b, rest) → P b) {fuel : Nat}
    {text rest : Bytes} {start account : α} (hstart : P start)
    (h : readMembersFrom fault member fuel start text = .ok (account, rest)) : P account := by
  induction fuel generalizing text rest start with
  | zero => exact absurd h (by simp [readMembersFrom])
  | succ fuel ih =>
    obtain ⟨⟨key, _⟩, -, h⟩ := bind_eq_ok.1 h
    obtain ⟨⟨next, _⟩, hnext, h⟩ := bind_eq_ok.1 h
    have hp : P next := hmember _ _ _ _ _ hstart hnext
    obtain ⟨continuation, -, h⟩ := bind_eq_ok.1 h
    cases continuation with
    | closed =>
      obtain ⟨rfl, -⟩ := Prod.mk.inj (Except.ok.inj h)
      exact hp
    | next part => exact ih hp h

/-- What holds at the start and is kept by each member holds of the account of an object. -/
theorem of_readMembers {P : α → Prop} {member : α → String → Bytes → Except ε (α × Bytes)}
    (hmember : ∀ a key text b rest, P a → member a key text = .ok (b, rest) → P b)
    {start account : α} (hstart : P start)
    (h : readMembers fault member start text = .ok (account, rest)) : P account := by
  unfold readMembers at h
  split at h
  · exact absurd h (by simp)
  · split at h
    · obtain ⟨rfl, -⟩ := Prod.mk.inj (Except.ok.inj h)
      exact hstart
    · exact of_readMembersFrom hmember hstart h

end Parts

/-! ### Values -/

theorem WellFormed.insert {members : Members} {key : String} (h : (Json.object members).WellFormed)
    (hv : v.WellFormed) : (Json.object (members.insert key v)).WellFormed := by
  rw [WellFormed, wellFormedMembers_iff] at h ⊢
  refine ⟨Members.sorted_insert h.1, fun m hm => ?_⟩
  rcases Members.mem_insert hm with rfl | hm
  · exact hv
  · exact h.2 m hm

/-- **What is read is well formed**, however deep it nests. -/
theorem wellFormed_of_readValue {depth : Nat} {text rest : Bytes} {v : Json}
    (h : readValue depth text = .ok (v, rest)) : v.WellFormed := by
  induction depth generalizing text rest v with
  | zero =>
    unfold readValue at h
    dsimp only at h
    split at h
    · exact absurd h (by simp)
    · exact wellFormed_of_readScalar h
  | succ depth ih =>
    unfold readValue at h
    dsimp only at h
    split_ifs at h
    · obtain ⟨⟨items, _⟩, hitems, h⟩ := bind_eq_ok.1 h
      obtain ⟨rfl, -⟩ := Prod.mk.inj (Except.ok.inj h)
      rw [WellFormed, wellFormedItems_iff]
      exact forall_of_readItems (fun _ _ _ hitem => ih hitem) hitems
    · obtain ⟨⟨members, _⟩, hmembers, h⟩ := bind_eq_ok.1 h
      obtain ⟨rfl, -⟩ := Prod.mk.inj (Except.ok.inj h)
      refine @of_readMembers _ _ _ _ _ (fun members => (Json.object members).WellFormed) _
        (fun a key text b rest ha hb => ?_) _ _ ?_ hmembers
      · obtain ⟨_, -, hb⟩ := bind_eq_ok.1 hb
        obtain ⟨⟨w, _⟩, hw, hb⟩ := bind_eq_ok.1 hb
        obtain ⟨rfl, -⟩ := Prod.mk.inj (Except.ok.inj hb)
        exact ha.insert (ih hw)
      · rw [WellFormed]
        exact ⟨.nil, trivial⟩
    · exact wellFormed_of_readScalar h

/-- **The value of a document is well formed.** -/
theorem wellFormed_of_parse {document : Bytes} (h : parse document = .ok v) : v.WellFormed := by
  obtain ⟨⟨w, _⟩, hw, h⟩ := bind_eq_ok.1 (mapError_eq_ok.1 h)
  obtain ⟨-, h⟩ := bind_unit_eq_ok.1 h
  exact Except.ok.inj h ▸ wellFormed_of_readValue hw

end Json

end ControlPlane
