import Variants.Document.Value

/-!
Entries under texts. A text is the same key as no other value, an item put under a text is found there, and
of several the last one counts. Entries under distinct texts are kept as they are.
-/

namespace Variants

theorem Value.same_text_iff {key : Value} {name : String} :
    key.same (.text name) = true ↔ key = .text name := by
  cases key <;> simp [same, quantity?]

theorem Value.text_same_iff {key : Value} {name : String} :
    (Value.text name).same key = true ↔ key = .text name := by
  cases key <;> simp [same, quantity?]
  exact eq_comm

namespace Entries

def Texts (entries : Entries) : Prop :=
  ∀ entry ∈ entries, ∃ name, entry.1 = .text name

theorem get?_cons (key item : Value) (rest : Entries) (name : String) :
    get? ((key, item) :: rest) (.text name) =
      if key.same (.text name) then some item else rest.get? (.text name) := by
  rw [get?, List.find?_cons]
  cases key.same (.text name) <;> rfl

theorem get?_nil (name : String) : get? [] (.text name) = none := rfl

theorem get?_text_cons (known name : String) (item : Value) (rest : Entries) :
    get? ((.text known, item) :: rest) (.text name) =
      if known = name then some item else rest.get? (.text name) := by
  rw [get?_cons]
  simp [Value.same]

theorem get?_append (first second : Entries) (name : String) :
    get? (first ++ second) (.text name) =
      (first.get? (.text name)).or (second.get? (.text name)) := by
  rw [get?, List.find?_append, Option.map_or]
  rfl

theorem get?_put (entries : Entries) (key item : Value) (name : String) :
    (entries.put key item).get? (.text name) =
      if key.same (.text name) then some item else entries.get? (.text name) := by
  induction entries with
  | nil => exact get?_cons key item [] name
  | cons entry rest ih =>
      rcases entry with ⟨known, old⟩
      rw [put]
      by_cases taken : known.same key = true
      · have agree : known.same (.text name) = key.same (.text name) := by
          rw [Bool.eq_iff_iff]
          constructor
          · intro named
            rw [Value.same_text_iff.mp named, Value.text_same_iff] at taken
            exact Value.same_text_iff.mpr taken
          · intro named
            rwa [Value.same_text_iff.mp named] at taken
        rw [if_pos taken, get?_cons, get?_cons, agree]
        cases key.same (.text name) <;> rfl
      · rw [if_neg taken, get?_cons, get?_cons, ih]
        cases named : key.same (.text name) with
        | false => rfl
        | true =>
            have differs : known.same (.text name) = false := by
              rw [Bool.eq_false_iff]
              intro same
              rw [Value.same_text_iff.mp same, Value.same_text_iff.mp named, Value.text_same_iff] at taken
              exact taken rfl
            rw [differs]
            rfl

theorem get?_foldl_put (entries built : Entries) (name : String) :
    (entries.foldl (fun built entry => built.put entry.1 entry.2) built).get? (.text name) =
      ((ofList entries).get? (.text name)).or (built.get? (.text name)) := by
  induction entries generalizing built with
  | nil => rfl
  | cons entry rest ih =>
      rw [ofList, List.foldl_cons, List.foldl_cons, ih, ih (put [] entry.1 entry.2), Option.or_assoc,
        get?_put, get?_put]
      cases entry.1.same (.text name) <;> rfl

theorem get?_ofList_append (first second : Entries) (name : String) :
    (ofList (first ++ second)).get? (.text name) =
      ((ofList second).get? (.text name)).or ((ofList first).get? (.text name)) := by
  rw [ofList, List.foldl_append, ← ofList, get?_foldl_put]

theorem get?_filter {entries : Entries} {keep : Value × Value → Bool} {name : String}
    (kept : ∀ item, keep (.text name, item) = true) :
    get? (entries.filter keep) (.text name) = entries.get? (.text name) := by
  rw [get?, List.find?_filter, get?]
  congr 2
  funext entry
  rcases entry with ⟨key, item⟩
  cases named : key.same (.text name) with
  | false => simp
  | true => simp [Value.same_text_iff.mp named, kept]

theorem get?_map (f : Value → Value) (entries : Entries) (name : String) :
    get? (entries.map fun entry => (entry.1, f entry.2)) (.text name) =
      (entries.get? (.text name)).map f := by
  rw [get?, get?, List.find?_map, Option.map_map, Option.map_map]
  rfl

theorem put_of_absent {entries : Entries} {key : Value} (absent : ∀ entry ∈ entries, entry.1.same key = false)
    (item : Value) : entries.put key item = entries ++ [(key, item)] := by
  induction entries with
  | nil => rfl
  | cons entry rest ih =>
      obtain ⟨first, others⟩ := List.forall_mem_cons.mp absent
      simp [put, first, ih others]

theorem mem_put {entries : Entries} {key item : Value} {entry : Value × Value}
    (member : entry ∈ entries.put key item) (name : String) (named : key = .text name) :
    entry ∈ entries ∨ entry = (key, item) := by
  induction entries with
  | nil => exact .inr (List.mem_singleton.mp member)
  | cons first rest ih =>
      rw [put] at member
      split at member
      · rename_i taken
        rw [named, Value.same_text_iff] at taken
        rcases List.mem_cons.mp member with rfl | later
        · exact .inr (by rw [taken, named])
        · exact .inl (List.mem_cons_of_mem _ later)
      · rcases List.mem_cons.mp member with rfl | later
        · exact .inl List.mem_cons_self
        · exact (ih later).imp_left (List.mem_cons_of_mem _)

theorem foldl_put_of_nodup {built entries : Entries} (texts : entries.Texts)
    (distinct : ((built ++ entries).map (·.1)).Nodup) :
    entries.foldl (fun built entry => built.put entry.1 entry.2) built = built ++ entries := by
  induction entries generalizing built with
  | nil => simp
  | cons entry rest ih =>
      obtain ⟨⟨name, named⟩, others⟩ := List.forall_mem_cons.mp texts
      have absent : ∀ known ∈ built, known.1.same entry.1 = false := by
        intro known member
        rw [Bool.eq_false_iff, named, ne_eq, Value.same_text_iff, ← named]
        rw [List.map_append, List.nodup_append] at distinct
        exact distinct.2.2 _ (List.mem_map_of_mem member) _ (by simp)
      rw [List.foldl_cons, put_of_absent absent, ih others (by simpa using distinct)]
      simp

theorem ofList_of_nodup {entries : Entries} (texts : entries.Texts)
    (distinct : (entries.map (·.1)).Nodup) : ofList entries = entries :=
  foldl_put_of_nodup texts distinct

theorem keys_put_of_present {entries : Entries} {key : Value}
    (present : ∃ entry ∈ entries, entry.1.same key = true) (item : Value) :
    (entries.put key item).map (·.1) = entries.map (·.1) := by
  induction entries with
  | nil => simp at present
  | cons entry rest ih =>
      rw [put]
      by_cases taken : entry.1.same key = true
      · simp [taken]
      · have later : ∃ entry ∈ rest, entry.1.same key = true := by simpa [taken] using present
        simp [taken, ih later]

theorem nodup_keys_put {entries : Entries} (distinct : (entries.map (·.1)).Nodup) (name : String)
    (item : Value) : ((entries.put (.text name) item).map (·.1)).Nodup := by
  by_cases present : ∃ entry ∈ entries, entry.1.same (.text name) = true
  · rwa [keys_put_of_present present]
  · have absent : ∀ entry ∈ entries, entry.1.same (.text name) = false := by simpa using present
    rw [put_of_absent absent, List.map_append, List.nodup_append]
    refine ⟨distinct, by simp, ?_⟩
    intro known member key isNew same
    obtain ⟨entry, held, rfl⟩ := List.mem_map.mp member
    rw [List.map_cons, List.map_nil, List.mem_singleton] at isNew
    have differs := absent entry held
    rw [same, isNew, Bool.eq_false_iff, ne_eq, Value.same_text_iff] at differs
    exact differs rfl

theorem ofList_induction {motive : Entries → Prop} {entries : Entries} (start : motive [])
    (step : ∀ built, ∀ entry ∈ entries, motive built → motive (built.put entry.1 entry.2)) :
    motive (ofList entries) :=
  List.foldlRecOn entries _ start fun built holds entry member => step built entry member holds

theorem exists_ofList_cons (key item : Value) (rest : Entries) :
    ∃ first later, ofList ((key, item) :: rest) = (key, first) :: later := by
  rw [ofList, List.foldl_cons]
  apply List.foldlRecOn (motive := fun built => ∃ first later, built = (key, first) :: later)
  · exact ⟨item, [], rfl⟩
  · intro built given entry _
    rcases given with ⟨first, later, rfl⟩
    rw [put]
    split
    · exact ⟨_, _, rfl⟩
    · exact ⟨_, _, rfl⟩

theorem mem_of_mem_ofList {entries : Entries} (texts : entries.Texts) :
    ∀ entry ∈ ofList entries, entry ∈ entries := by
  apply ofList_induction (motive := fun built => ∀ entry ∈ built, entry ∈ entries)
  · simp
  · intro built entry member inside other held
    obtain ⟨name, named⟩ := texts entry member
    rcases mem_put held name named with old | rfl
    · exact inside other old
    · exact member

theorem nodup_keys_ofList {entries : Entries} (texts : entries.Texts) :
    ((ofList entries).map (·.1)).Nodup := by
  apply ofList_induction (motive := fun built => (built.map (·.1)).Nodup)
  · simp
  · intro built entry member distinct
    obtain ⟨name, named⟩ := texts entry member
    rw [named]
    exact nodup_keys_put distinct name entry.2

theorem Texts.ofList {entries : Entries} (texts : entries.Texts) : (ofList entries).Texts :=
  fun entry member => texts entry (mem_of_mem_ofList texts entry member)

theorem ofList_ofList {entries : Entries} (texts : entries.Texts) :
    Entries.ofList (Entries.ofList entries) = Entries.ofList entries :=
  ofList_of_nodup texts.ofList (nodup_keys_ofList texts)

end Entries

end Variants
