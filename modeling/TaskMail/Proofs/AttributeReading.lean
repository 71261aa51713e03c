import TaskMail.Proofs.TagReading

/-!
# TaskMail.Proofs.AttributeReading

The attributes of a tag are read as they were written.

* `Outside`             — a state between attributes, or in front of the first one.
* `foldl_attributeText` — an attribute is added to those that are done.
* `attributes_content`  — the content of a whole tag.
-/

namespace TaskMail.Xml
namespace AttributeReader

/-- Octets that are kept, or passed over, in a state of one kind. -/
theorem foldl_goto (state : Bytes → AttributeState) (input : Bytes) (p : Nat) (seen : Bytes)
    (keys : List (Bytes × Nat)) (done : List Attribute)
    (h : ∀ b ∈ input, ∀ p seen, step ⟨p, state seen, keys, done⟩ b =
      ⟨p + 1, state (b :: seen), keys, done⟩) :
    input.foldl step ⟨p, state seen, keys, done⟩ =
      ⟨p + input.length, state (input.reverse ++ seen), keys, done⟩ := by
  induction input generalizing p seen with
  | nil => rfl
  | cons b rest ih =>
    obtain ⟨hb, hrest⟩ := List.forall_mem_cons.1 h
    rw [List.foldl_cons, hb, ih _ _ hrest, List.reverse_cons, List.append_assoc, List.length_cons,
      Nat.add_right_comm, Nat.add_assoc]
    rfl

def Outside (s : AttributeState) : Prop :=
  s = .name ∨ s = .between

theorem Outside.fault?_eq_none {s : AttributeState} (h : Outside s) (p : Nat)
    (keys : List (Bytes × Nat)) (done : List Attribute) :
    (⟨p, s, keys, done⟩ : AttributeReader).fault? = none := by
  rcases h with rfl | rfl <;> rfl

theorem foldl_space {space : Bytes} (hspace : ∀ b ∈ space, isSpace b = true) {s : AttributeState}
    (hs : Outside s) (p : Nat) (keys : List (Bytes × Nat)) (done : List Attribute) :
    space.foldl step ⟨p, s, keys, done⟩ =
      ⟨p + space.length, if space = [] then s else .between, keys, done⟩ := by
  cases space with
  | nil => rfl
  | cons b rest =>
    obtain ⟨hb, hrest⟩ := List.forall_mem_cons.1 hspace
    have hstep : step ⟨p, s, keys, done⟩ b = ⟨p + 1, .between, keys, done⟩ := by
      rcases hs with rfl | rfl <;> simp [step, goto, hb]
    have hfold := foldl_goto (fun _ => .between) rest (p + 1) [] keys done
      fun c hc _ _ => by simp [step, goto, hrest c hc]
    rw [List.foldl_cons, hstep, hfold, List.length_cons, Nat.add_right_comm, Nat.add_assoc]
    rfl

theorem foldl_name {name : Bytes} (hname : NameText name) (p : Nat) :
    name.foldl step ⟨p, .name, [], []⟩ = ⟨p + name.length, .name, [], []⟩ :=
  foldl_goto (fun _ => .name) name p [] [] [] fun b hb _ _ => by
    simp [step, goto, isSpace_of_isNameOctet (hname.octets b hb)]

/-- A key with its equals sign. -/
theorem foldl_key {key : Bytes} (hkey : NameText key) (p : Nat) {keys : List (Bytes × Nat)}
    (hnew : keys.lookup key = none) (done : List Attribute) :
    ∃ q, (key ++ [0x3D]).foldl step ⟨p, .between, keys, done⟩ =
      ⟨q, .equals key, (key, p) :: keys, done⟩ := by
  have hoctets := hkey.octets
  cases hkey with
  | @mk b rest hb hrest =>
    have hspace := isSpace_of_isNameOctet (hoctets b List.mem_cons_self)
    have hstep : step ⟨p, .between, keys, done⟩ b = ⟨p + 1, .key p [b], keys, done⟩ := by
      simp [step, goto, hspace]
    have hfold := foldl_goto (.key p) rest (p + 1) [b] keys done (fun c hc p seen => by
      have hequals := ne_of_isNameOctet (hrest c hc) (c := 0x3D) rfl
      simp [step, goto, hequals, isSpace_of_isNameOctet (hrest c hc)])
    refine ⟨p + 1 + rest.length + 1, ?_⟩
    rw [List.cons_append, List.foldl_cons, List.foldl_append, hstep, hfold]
    simp [step, takeKey, goto, hnew]

theorem foldl_value {value : Bytes} (h : 0x22 ∉ value) (p : Nat) (key : Bytes)
    (keys : List (Bytes × Nat)) (done : List Attribute) :
    ∃ q, (0x22 :: value ++ [0x22]).foldl step ⟨p, .equals key, keys, done⟩ =
      ⟨q, .between, keys, ⟨key, value⟩ :: done⟩ := by
  have hopen : step ⟨p, .equals key, keys, done⟩ 0x22 = ⟨p + 1, .value key 0x22 [], keys, done⟩ :=
    rfl
  have hfold := foldl_goto (.value key 0x22) value (p + 1) [] keys done
    (fun b hb p seen => by
      have hne : b ≠ 0x22 := fun heq => h (heq ▸ hb)
      simp [step, goto, hne])
  refine ⟨p + 1 + value.length + 1, ?_⟩
  rw [List.cons_append, List.foldl_cons, List.foldl_append, hopen, hfold]
  simp [step, goto]

theorem foldl_attributeText {a : Attribute} {text : Bytes} (h : AttributeText a text)
    {s : AttributeState} (hs : Outside s) (p : Nat) {keys : List (Bytes × Nat)}
    (hnew : keys.lookup a.key = none) (done : List Attribute) :
    ∃ q start, text.foldl step ⟨p, s, keys, done⟩ =
      ⟨q, .between, (a.key, start) :: keys, a :: done⟩ := by
  cases h with
  | @mk space key value hne hspace hkey hvalue =>
    obtain ⟨q, hq⟩ := foldl_key hkey (p + space.length) hnew done
    obtain ⟨q', hq'⟩ := foldl_value hvalue q key ((key, p + space.length) :: keys) done
    refine ⟨q', p + space.length, ?_⟩
    have htext : space ++ key ++ Utf8.encode "=\"" ++ value ++ Utf8.encode "\"" =
        space ++ ((key ++ [0x3D]) ++ (0x22 :: value ++ [0x22])) := by
      simp [Scan.encode_equals, Scan.encode_quote]
    rw [htext, List.foldl_append, foldl_space hspace hs, if_neg hne, List.foldl_append, hq, hq']

/-- No key is written twice, and none has been read before. -/
theorem foldl_attributes {items : List Attribute} {text : Bytes}
    (h : Joined AttributeText items text) (hnodup : (items.map Attribute.key).Nodup)
    {s : AttributeState} (hs : Outside s) (p : Nat) {keys : List (Bytes × Nat)}
    (hnew : ∀ a ∈ items, keys.lookup a.key = none) (done : List Attribute) :
    ∃ q t keys', Outside t ∧
      text.foldl step ⟨p, s, keys, done⟩ = ⟨q, t, keys', items.reverse ++ done⟩ := by
  induction h generalizing s p keys done with
  | nil => exact ⟨p, s, keys, hs, rfl⟩
  | @cons a items text texts ha _ ih =>
    obtain ⟨hnewA, hnewRest⟩ := List.forall_mem_cons.1 hnew
    rw [List.map_cons, List.nodup_cons] at hnodup
    obtain ⟨q, start, hq⟩ := foldl_attributeText ha hs p hnewA done
    have hnext : ∀ b ∈ items, ((a.key, start) :: keys).lookup b.key = none := by
      intro b hb
      have hne : b.key ≠ a.key := fun heq => hnodup.1 (heq ▸ List.mem_map_of_mem hb)
      rw [List.lookup_cons, beq_eq_false_iff_ne.2 hne]
      exact hnewRest b hb
    obtain ⟨q', t, keys', ht, hq'⟩ := ih hnodup.2 (.inr rfl) q hnext (a :: done)
    refine ⟨q', t, keys', ht, ?_⟩
    rw [List.foldl_append, hq, hq', List.reverse_cons, List.append_assoc]
    rfl

end AttributeReader

theorem attributes_content {name text space : Bytes} {items : List Attribute}
    (hname : NameText name) (h : Joined AttributeText items text)
    (hnodup : (items.map Attribute.key).Nodup) (hspace : ∀ b ∈ space, isSpace b = true) :
    attributes (name ++ text ++ space) = (items, none) := by
  have hnew : ∀ a ∈ items, ([] : List (Bytes × Nat)).lookup a.key = none := fun _ _ => rfl
  obtain ⟨q, s, keys, hs, hq⟩ :=
    AttributeReader.foldl_attributes h hnodup (.inl rfl) (0 + name.length) hnew []
  have ht : AttributeReader.Outside (if space = [] then s else .between) := by
    split
    · exact hs
    · exact .inr rfl
  have hfold : (name ++ text ++ space).foldl AttributeReader.step AttributeReader.start =
      ⟨q + space.length, if space = [] then s else .between, keys, items.reverse⟩ := by
    rw [List.foldl_append, List.foldl_append, AttributeReader.start,
      AttributeReader.foldl_name hname, hq, List.append_nil, AttributeReader.foldl_space hspace hs]
  rw [attributes, hfold]
  simp only [ht.fault?_eq_none, List.reverse_reverse]

end TaskMail.Xml
