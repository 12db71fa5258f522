import Calculator.Proofs.Service.Recorded

/-! # What the memory register shows

The register is zero at first. A valid update adds to it or subtracts from it, a request to clear it
makes it zero again, and no other request touches it (`memory_respond`). So after a run it holds
what the updates since it was cleared come to, one after another (`memory_after`), and each answer
of the memory shows the register after its own request (`memory_shows_register`).
-/

namespace Calculator.Service

/-- The register after an update. What is not a number counts as zero. -/
def MemoryForm.apply (v : Float) (form : MemoryForm) : Float :=
  let x := if form.value.isNaN then 0.0 else form.value
  match form.action with
  | .add => v + x
  | .subtract => v - x

namespace Request

/-- The update of the register that a request makes, if it is valid. -/
def update? (settings : Settings) (request : Request) : Option MemoryForm :=
  if request.asked? = some (.memory, .post) then request.form? settings MemoryForm.read else none

/-- The request clears the register. -/
def ClearsMemory (request : Request) : Prop :=
  request.asked? = some (.memory, .delete)
deriving Decidable

theorem update?_eq_some_iff {settings : Settings} {request : Request} {form : MemoryForm} :
    request.update? settings = some form ↔
      request.Asks .memory .post ∧ request.Holds settings MemoryForm.read form := by
  rw [update?, asks_iff, ← form?_eq_some_iff, Option.ite_none_right_eq_some]

end Request

/-- What the updates since the register was cleared come to, one after another from zero. -/
def registerAfter (settings : Settings) (requests : List Request) : Float :=
  ((requests.rtakeWhile fun request => ¬ request.ClearsMemory).filterMap
    (Request.update? settings)).foldl MemoryForm.apply 0.0

variable {settings : Settings} {state : State} {request : Request}

theorem State.memory_recorded {next : State} {record : Bool} {entry : HistoryEntry}
    (h : state.recorded record entry = .ok next) : next.memory = state.memory := by
  rcases State.recorded_eq_ok_iff.mp h with ⟨-, rfl⟩ | ⟨-, history, -, rfl⟩ <;> rfl

theorem Memory.eq_of_value {m n : Memory} (h : m.value = n.value) : m = n := by
  obtain ⟨v⟩ := m
  exact congrArg Memory.mk h

theorem value_updateMemory (memory : Memory) (form : MemoryForm) :
    (updateMemory memory form).value = form.apply memory.value := by
  unfold updateMemory MemoryForm.apply
  cases form.action <;> rfl

/-- **One request updates the register, clears it, or leaves it as it is.** -/
theorem memory_respond (settings : Settings) (state : State) (request : Request) :
    (respond settings state request).1.memory.value =
      if request.ClearsMemory then 0.0
      else (request.update? settings).elim state.memory.value
        (MemoryForm.apply state.memory.value) := by
  by_cases hclears : request.ClearsMemory
  · rw [if_pos hclears, respond_of_acted (Request.asks_iff.mpr hclears) .memoryCleared]
    rfl
  · rw [if_neg hclears]
    cases hupdate : request.update? settings with
    | some form =>
      obtain ⟨hasks, hform⟩ := Request.update?_eq_some_iff.mp hupdate
      rw [respond_of_acted hasks (.memoryUpdated hform)]
      exact value_updateMemory state.memory form
    | none =>
      rcases respond_cases settings state request with
        ⟨f, -, hr⟩ | ⟨-, hr⟩ | ⟨resource, method, next, data, hasks, hacted, hr⟩
      · rw [hr]
        rfl
      · rw [hr]
        rfl
      · rw [hr]
        cases hacted with
        | memoryUpdated hform =>
          rw [Request.update?_eq_some_iff.mpr ⟨hasks, hform⟩] at hupdate
          exact absurd hupdate (Option.some_ne_none _)
        | memoryCleared => exact absurd (Request.asks_iff.mp hasks) hclears
        | evaluate _ _ _ _ hnext | chain _ _ _ _ hnext => rw [State.memory_recorded hnext]; rfl
        | home | tokenize | toggleSign | functions | historyShown | historyCleared | memoryShown =>
          rfl

theorem registerAfter_concat (settings : Settings) (requests : List Request) (request : Request) :
    registerAfter settings (requests ++ [request]) =
      if request.ClearsMemory then 0.0
      else (request.update? settings).elim (registerAfter settings requests)
        (MemoryForm.apply (registerAfter settings requests)) := by
  unfold registerAfter
  rw [List.rtakeWhile_concat]
  by_cases hclears : request.ClearsMemory
  · simp [hclears]
  · cases hupdate : request.update? settings <;> simp [hclears, hupdate]

/-- **After a run the register holds what the updates since it was cleared come to.** -/
theorem memory_after (settings : Settings) (requests : List Request) :
    (State.after settings (State.fresh settings) requests).memory.value =
      registerAfter settings requests := by
  induction requests using List.reverseRecOn with
  | nil => rfl
  | append_singleton requests request ih =>
    rw [State.after_concat, memory_respond, registerAfter_concat, ih]

/-- What is told of a register: its value if it is finite, what is shown for it, and whether it is
something other than zero. -/
def describeRegister (v : Float) : Json :=
  .object [
    ("value", if v.isFinite then .float v else .null), ("display", .string (Number.display v)),
    ("active", .bool (v != 0.0))]

theorem describeMemory_eq (memory : Memory) :
    describeMemory memory = describeRegister memory.value := by
  unfold describeMemory describeRegister Expression.finite?
  split <;> rfl

theorem status_of_invalid_update (hasks : request.Asks .memory .post)
    (hupdate : request.update? settings = none) :
    (respond settings state request).2.status ≠ 200 := by
  intro hok
  obtain ⟨next, data, hacted, -⟩ := exists_acted hasks hok
  cases hacted with
  | memoryUpdated hform =>
    rw [Request.update?_eq_some_iff.mpr ⟨hasks, hform⟩] at hupdate
    exact absurd hupdate (Option.some_ne_none _)

/-- A request to the memory is rejected if it is an update that is not valid. Else its answer shows
the register that it leaves. -/
theorem respond_memory (settings : Settings) (state : State) {method : Method}
    (hasks : request.Asks .memory method) :
    (method = .post ∧ request.update? settings = none ∧
      (respond settings state request).2.status ≠ 200) ∨
    ((method = .post → (request.update? settings).isSome) ∧
      (respond settings state request).2 =
        .ok (describeRegister (respond settings state request).1.memory.value)) := by
  cases method with
  | get =>
    rw [respond_of_acted hasks .memoryShown, describeMemory_eq]
    exact Or.inr ⟨nofun, rfl⟩
  | delete =>
    rw [respond_of_acted hasks .memoryCleared, describeMemory_eq]
    exact Or.inr ⟨nofun, rfl⟩
  | post =>
    cases hupdate : request.update? settings with
    | none => exact Or.inl ⟨rfl, rfl, status_of_invalid_update hasks hupdate⟩
    | some form =>
      obtain ⟨-, hform⟩ := Request.update?_eq_some_iff.mp hupdate
      rw [respond_of_acted hasks (.memoryUpdated hform), describeMemory_eq]
      exact Or.inr ⟨fun _ => rfl, rfl⟩

/-- **Each answer of the memory shows the register**, after what the request itself does to it: what
the updates since it was cleared come to. Showing and clearing it always succeed, and updating it if
the update is valid. A request that is rejected leaves the register as it is, and so does one that
neither updates nor clears it. -/
theorem memory_shows_register (settings : Settings) (requests : List Request) :
    (∀ (request : Request) (method : Method), request.Asks .memory method →
      ((answer settings requests request).status = 200 ↔
        (method = .post → (request.update? settings).isSome)) ∧
      ((answer settings requests request).status = 200 →
        answer settings requests request =
          .ok (describeRegister (registerAfter settings (requests ++ [request]))))) ∧
    ∀ (state : State) (request : Request),
      (respond settings state request).2.status ≠ 200 ∨
        request.asked? ∉ [some (.memory, .post), some (.memory, .delete)] →
      (respond settings state request).1.memory = state.memory := by
  constructor
  · intro request method hasks
    rw [answer, ← memory_after, State.after_concat]
    rcases respond_memory settings (State.after settings (State.fresh settings) requests) hasks with
      ⟨hpost, hupdate, hstatus⟩ | ⟨hvalid, hreply⟩
    · refine ⟨iff_of_false hstatus ?_, fun h => absurd h hstatus⟩
      intro hvalid
      simp [hupdate] at hvalid
      exact hvalid hpost
    · refine ⟨iff_of_true ?_ hvalid, fun _ => hreply⟩
      rw [hreply]
      rfl
  · rintro state request (hstatus | hasked)
    · rw [respond_of_rejected hstatus]
    · have hclears : ¬ request.ClearsMemory := by
        intro h
        rw [h] at hasked
        simp at hasked
      have hupdate : request.update? settings = none := by
        rw [Request.update?, if_neg]
        intro h
        rw [h] at hasked
        simp at hasked
      have hvalue := memory_respond settings state request
      rw [if_neg hclears, hupdate] at hvalue
      exact Memory.eq_of_value hvalue

/-- An update of the register. -/
def Request.updating (action value : String) : Request :=
  plain "POST" "memory" (some ("\x7b\"action\":\"" ++ action ++ "\",\"value\":" ++ value ++ "\x7d"))

/-- Updates of the register, one of which is not valid, and a request that clears it in between. -/
def Request.someUpdates : List Request := [
  updating "add" "5", plain "DELETE" "memory" none, updating "subtract" "1e308",
  updating "add" "\"x\"",
  updating "add" "NaN"]

/-- Where two large numbers are subtracted the register is infinite, which is told without a
number. -/
theorem memory_shows_register_infinite :
    (Request.updating "subtract" "1e308").Asks .memory .post ∧
      answer Settings.oneEntry Request.someUpdates (Request.updating "subtract" "1e308") =
        .ok (.object [("value", .null), ("display", .string "-Infinity"),
          ("active", .bool true)]) := by
  have hasks : (Request.updating "subtract" "1e308").Asks .memory .post :=
    ⟨by decide +kernel, ok_of_toOption (by decide +kernel)⟩
  have hregister : registerAfter Settings.oneEntry
      (Request.someUpdates ++ [Request.updating "subtract" "1e308"]) = -Number.infinity := by
    decide +kernel
  have hvalid : (Request.updating "subtract" "1e308").update? Settings.oneEntry ≠ none := by
    decide +kernel
  obtain ⟨hstatus, hreply⟩ :=
    (memory_shows_register Settings.oneEntry Request.someUpdates).1 _ _ hasks
  refine ⟨hasks, ?_⟩
  rw [hreply (hstatus.mpr fun _ => Option.isSome_iff_ne_none.mpr hvalid), hregister]
  have hshown : Number.display (-Number.infinity) = "-Infinity" := by decide +kernel
  rw [describeRegister, hshown]
  rfl

end Calculator.Service
