import JavaBuilder.Json.Decode
import JavaBuilder.Proofs.Outcome

/-!
# What decoding gives

A decoder is put together from decoders of parts, and what is known of the parts carries over to the
whole: to the items of an array, to what is not null, and to a record whose slots were filled one by
one. So a fact about everything that a decoder gives is proved along the way the decoder is built, with
nothing to be said about the text. The slots of a record carry an *invariant*: it holds of the empty
slots, each member keeps it, and the record is made of slots for which it holds.
-/

namespace JavaBuilder.Json

variable {ε α β σ : Type}

/-- Whatever the decoder makes of a value has the property. -/
def Decoder.Gives (f : Decoder ε α) (P : α → Prop) : Prop := ∀ ⦃r a⦄, f r = .ok a → P a

/-! ## Parts -/

theorem fillSlot_eq_ok_iff {name : String} {slot slot' : Option α} {f : Decoder ε α} {r : Reading} :
    fillSlot name slot f r = .ok slot' ↔ slot = none ∧ ∃ a, f r = .ok a ∧ slot' = some a := by
  cases slot with
  | none =>
    simp only [fillSlot, Option.isSome_none, Bool.false_eq_true, if_false, map_eq_ok, true_and]
    exact exists_congr fun a ↦ and_congr_right fun _ ↦ eq_comm
  | some _ => simp [fillSlot]

namespace Decoder.Gives

variable {P : α → Prop} {f : Decoder ε α}

theorem of_fillSlot (hf : f.Gives P) {name : String} {slot slot' : Option α} {r : Reading}
    (h : fillSlot name slot f r = .ok slot') : ∀ a ∈ slot', P a := by
  obtain ⟨-, a, ha, rfl⟩ := fillSlot_eq_ok_iff.mp h
  rintro _ ⟨⟩
  exact hf ha

theorem asText {g : String → Except ε α} (hg : ∀ ⦃s a⦄, g s = .ok a → P a) :
    (asText g).Gives P := by
  intro r a h
  obtain ⟨s, -, h⟩ := bind_eq_ok.mp h
  split at h
  · next b hb =>
    obtain rfl := Except.ok.inj h
    exact hg hb
  · cases h

theorem asOption (hf : f.Gives P) : (asOption f).Gives fun o ↦ ∀ a ∈ o, P a := by
  intro r o h
  unfold Json.asOption at h
  split at h
  · obtain rfl := Except.ok.inj h
    rintro _ ⟨⟩
  · obtain ⟨a, ha, rfl⟩ := map_eq_ok.mp h
    rintro _ ⟨⟩
    exact hf ha

theorem decodeItems (hf : f.Gives P) : (items : Items) → (as : List α) →
    decodeItems f items = .ok as → ∀ a ∈ as, P a
  | .done, as, h => by
    obtain rfl := Except.ok.inj h
    exact fun a ha ↦ nomatch ha
  | .broken, as, h => nomatch h
  | .cons item rest, as, h => by
    obtain ⟨b, hb, h⟩ := bind_eq_ok.mp h
    obtain ⟨bs, hbs, h⟩ := bind_eq_ok.mp h
    obtain rfl := Except.ok.inj h
    exact List.forall_mem_cons.mpr ⟨hf hb, decodeItems hf rest bs hbs⟩

theorem asList (hf : f.Gives P) : (asList f).Gives fun as ↦ ∀ a ∈ as, P a := by
  intro r as h
  unfold Json.asList at h
  split at h
  · exact decodeItems hf _ _ h
  · cases h

end Decoder.Gives

/-! ## Members and records -/

section

variable {step : σ → String → Reading → Except (Fault ε) σ} {I : σ → Prop}
  (hstep : ∀ ⦃s key r s'⦄, step s key r = .ok s' → I s → I s')

include hstep

/-- What each member keeps is kept by all of them. -/
theorem walkMembers_invariant : (members : Members) → (s s' : σ) →
    walkMembers step s members = .ok s' → I s → I s'
  | .done, s, s', h, hs => Except.ok.inj h ▸ hs
  | .broken _, s, s', h, hs => nomatch h
  | .cons none _ _, s, s', h, hs => nomatch h
  | .cons (some key) value rest, s, s', h, hs => by
    obtain ⟨t, ht, h⟩ := bind_eq_ok.mp h
    exact walkMembers_invariant rest t s' h (hstep ht hs)

theorem walkItems_invariant : (items : Items) → (fields : List String) → (s s' : σ) →
    walkItems step s fields items = .ok s' → I s → I s'
  | .done, fields, s, s', h, hs => by
    rw [walkItems] at h
    exact Except.ok.inj h ▸ hs
  | .broken, fields, s, s', h, hs => by
    rw [walkItems] at h
    cases h
  | .cons _ _, [], s, s', h, hs => by
    rw [walkItems] at h
    exact Except.ok.inj h ▸ hs
  | .cons item rest, field :: fields, s, s', h, hs => by
    rw [walkItems] at h
    obtain ⟨t, ht, h⟩ := bind_eq_ok.mp h
    exact walkItems_invariant rest fields t s' h (hstep ht hs)

theorem Decoder.Gives.asTable {start : σ} (hstart : I start) : (asTable step start).Gives I := by
  intro r s h
  unfold Json.asTable at h
  split at h
  · exact walkMembers_invariant hstep _ _ _ h hstart
  · cases h

/-- A record is made of slots for which the invariant holds, whichever way it is written. -/
theorem Decoder.Gives.asRecord {fields : List String} {start : σ} {P : α → Prop}
    {finish : (String → Fault ε) → σ → Except (Fault ε) α} (hstart : I start)
    (hfinish : ∀ ⦃missing s a⦄, finish missing s = .ok a → I s → P a) :
    (asRecord fields step start finish).Gives P := by
  intro r a h
  unfold Json.asRecord at h
  split at h
  · obtain ⟨s, hs, h⟩ := bind_eq_ok.mp h
    exact hfinish h (walkMembers_invariant hstep _ _ _ hs hstart)
  · obtain ⟨s, hs, h⟩ := bind_eq_ok.mp h
    obtain ⟨b, hb, h⟩ := bind_eq_ok.mp h
    have hP := hfinish hb (walkItems_invariant hstep _ _ _ _ hs hstart)
    split at h
    · split at h
      · exact Except.ok.inj h ▸ hP
      · cases h
    · cases h
  · cases h

end

theorem require_eq_ok_iff {missing : String → Fault ε} {name : String} {slot : Option α} {a : α} :
    require missing name slot = .ok a ↔ slot = some a := by
  cases slot <;> simp [require]

/-! ## Texts -/

theorem decodeText_eq_ok_iff {f : Decoder ε α} {text : String} {a : α} :
    decodeText f text = .ok a ↔
      f (Document.ofText text).root = .ok a ∧ (Document.ofText text).ended = true := by
  simp only [decodeText, bind_eq_ok]
  constructor
  · rintro ⟨b, hb, h⟩
    split at h
    · next hended => exact ⟨Except.ok.inj h ▸ hb, hended⟩
    · cases h
  · rintro ⟨ha, hended⟩
    exact ⟨a, ha, by rw [if_pos hended]; rfl⟩

end JavaBuilder.Json
