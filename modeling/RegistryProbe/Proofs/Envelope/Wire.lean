import RegistryProbe.Envelope
import RegistryProbe.Json.RoundTrip

/-! # Envelopes as bytes

  What is written of an envelope has no numbers, nests three deep at most, and has its members in
  order. So the bytes are read as the document that was written: `Envelope.ofBytes?_toBytes_toJson`.
-/

namespace RegistryProbe

/-! ### Arrays and objects by their parts -/

namespace Json

theorem itemTokens_eq_map (items : List Json) : itemTokens items = items.map tokens := by
  induction items with
  | nil => rfl
  | cons v vs ih => rw [itemTokens, List.map_cons, ih]

theorem orderedItems_eq_map (items : List Json) : orderedItems items = items.map ordered := by
  induction items with
  | nil => rfl
  | cons v vs ih => rw [orderedItems, List.map_cons, ih]

theorem itemsDepth_le {items : List Json} {n : Nat} (h : ∀ v ∈ items, v.depth ≤ n) :
    itemsDepth items ≤ n := by
  induction items with
  | nil => exact Nat.zero_le n
  | cons v vs ih =>
    rw [itemsDepth]
    exact Nat.max_le.2 ⟨h v List.mem_cons_self, ih fun w hw => h w (List.mem_cons_of_mem v hw)⟩

theorem isPlain_separated {pieces : List (List Token)}
    (h : ∀ ts ∈ pieces, ts.all Token.isPlain = true) :
    (separated pieces).all Token.isPlain = true := by
  cases pieces with
  | nil => rfl
  | cons ts pieces =>
    rw [separated, List.all_append, h ts List.mem_cons_self, Bool.true_and, List.all_flatMap,
      List.all_eq_true]
    intro us hus
    rw [List.all_cons, h us (List.mem_cons_of_mem ts hus)]
    rfl

theorem isPlain_array {items : List Json} (h : ∀ v ∈ items, v.tokens.all Token.isPlain = true) :
    (array items).tokens.all Token.isPlain = true := by
  rw [tokens, List.all_cons, List.all_append, itemTokens_eq_map, isPlain_separated]
  · rfl
  · intro ts hts
    obtain ⟨v, hv, rfl⟩ := List.mem_map.1 hts
    exact h v hv

end Json

/-! ### What is written of an entry -/

namespace ErrorEntry

variable (e : ErrorEntry)

theorem isPlain_toJson : e.toJson.tokens.all Json.Token.isPlain = true := by
  obtain ⟨_ | s⟩ := e <;> rfl

theorem depth_toJson_le : e.toJson.depth ≤ 1 := by
  obtain ⟨_ | s⟩ := e <;> simp [toJson, Json.depth, Json.membersDepth]

theorem ordered_toJson : e.toJson.ordered = e.toJson := by
  obtain ⟨_ | s⟩ := e <;> rfl

end ErrorEntry

/-! ### What is written of an envelope -/

namespace Envelope

variable (e : Envelope)

theorem isPlain_toJson : e.toJson.tokens.all Json.Token.isPlain = true := by
  have hentries : (Json.array (e.errors.map ErrorEntry.toJson)).tokens.all
      Json.Token.isPlain = true := by
    refine Json.isPlain_array fun v hv => ?_
    obtain ⟨entry, -, rfl⟩ := List.mem_map.1 hv
    exact entry.isPlain_toJson
  rw [toJson, Json.tokens, List.all_cons, List.all_append, Json.isPlain_separated]
  · rfl
  · intro ts hts
    rw [Json.memberTokens, Json.memberTokens, List.mem_singleton] at hts
    rw [hts, List.all_cons, List.all_cons, hentries]
    rfl

theorem depth_toJson_le : e.toJson.depth ≤ 3 := by
  have hentries : Json.itemsDepth (e.errors.map ErrorEntry.toJson) ≤ 1 := by
    refine Json.itemsDepth_le fun v hv => ?_
    obtain ⟨entry, -, rfl⟩ := List.mem_map.1 hv
    exact entry.depth_toJson_le
  rw [toJson, Json.depth, Json.membersDepth, Json.membersDepth, Json.depth]
  omega

theorem ordered_toJson : e.toJson.ordered = e.toJson := by
  have hentries : Json.orderedItems (e.errors.map ErrorEntry.toJson) =
      e.errors.map ErrorEntry.toJson := by
    rw [Json.orderedItems_eq_map, List.map_map]
    exact List.map_congr_left fun entry _ => entry.ordered_toJson
  rw [toJson, Json.ordered, Json.orderedMembers, Json.ordered, hentries]
  rfl

/-- An envelope that is written and read again is the document that was written. -/
theorem ofBytes?_toBytes_toJson : Json.ofBytes? e.toJson.toBytes = some e.toJson := by
  have hdepth : e.toJson.depth ≤ Json.maxDepth := Nat.le_trans e.depth_toJson_le (by decide)
  rw [Json.ofBytes?_toBytes e.isPlain_toJson hdepth, ordered_toJson]

end Envelope

end RegistryProbe
