import ConfigDelivery.Targeting.Rollout
/-!
# The choice of a code version

Which look-ups the choice makes, in which order, and what it comes to, for any resolver: one that
fails when it likes, and that need not answer the same twice. A gray code version that cannot be
used leaves no trace in the choice, which is then that of a configuration without a rollout.
-/

namespace ConfigDelivery.Targeting

variable {State Fault : Type}

/-- A resolver that also lists what it is asked for. -/
def asking (resolve : String → StateM State (Except Fault Code)) (id : String) :
    StateM (List String × State) (Except Fault Code) := fun (asked, state) =>
  let (answer, after) := resolve id state
  (answer, asked ++ [id], after)

/-- A code version that resolves and works. -/
def usable? : Except Fault Code → Option Code
  | .ok code => if code.isBroken then none else some code
  | .error _ => none

/-- An answer can be used if it is a code version that works. -/
theorem usable?_eq_some_iff {answer : Except Fault Code} {code : Code} :
    usable? answer = some code ↔ answer = .ok code ∧ code.isBroken = false := by
  cases answer with
  | error fault => simp [usable?]
  | ok found =>
    cases broken : found.isBroken
    · simp only [usable?, broken, Bool.false_eq_true, if_false, Option.some.injEq,
        Except.ok.injEq]
      exact ⟨fun same => ⟨same, same ▸ broken⟩, And.left⟩
    · simp only [usable?, broken, if_true, Except.ok.injEq]
      constructor
      · rintro ⟨⟩
      · rintro ⟨rfl, works⟩
        rw [broken] at works
        cases works

/-- The choice of the released code version. -/
def releaseChoice (config : Config) (resolve : String → StateM State (Except Fault Code)) :
    StateM State (Except Fault Selection) := fun state =>
  let (answer, after) := resolve config.releasedCode state
  (answer.map (.mk · false), after)

/-- The code versions of a configuration, which may share an identifier. -/
inductive Version where
  | gray
  | released
  deriving DecidableEq, Repr

/-- The identifier of a code version of a configuration. -/
def Version.codeId (config : Config) : Version → String
  | gray => config.grayReleaseCode
  | released => config.releasedCode

/-- What a resolver is asked for: the gray code version first, if the device is to get it, and the
released one unless the gray one was asked for and can be used. -/
def asks (config : Config) (deviceId : String) (gray : Except Fault Code) : List Version :=
  (if isGrayHit config deviceId then [.gray] else []) ++
    if isGrayHit config deviceId ∧ (usable? gray).isSome then [] else [.released]

section Asks

variable (config : Config) (deviceId : String) (gray : Except Fault Code)

/-- Each code version is asked for at most once, on its own account. -/
theorem nodup_asks : (asks config deviceId gray).Nodup := by
  unfold asks
  cases isGrayHit config deviceId <;> cases (usable? gray).isSome <;> decide

/-- The gray code is asked for first on a hit, and only then. -/
theorem head?_asks_iff :
    (asks config deviceId gray).head? = some .gray ↔ isGrayHit config deviceId = true := by
  unfold asks
  cases isGrayHit config deviceId <;> cases (usable? gray).isSome <;> decide

/-- The release is asked for without a hit, or where the gray code cannot be used. -/
theorem released_mem_asks_iff :
    .released ∈ asks config deviceId gray ↔
      isGrayHit config deviceId = false ∨ ∀ code, gray = .ok code → code.isBroken = true := by
  have unusable :
      (usable? gray).isSome = false ↔ ∀ code, gray = .ok code → code.isBroken = true := by
    rcases gray with fault | code
    · simp [usable?]
    · cases broken : code.isBroken <;> simp [usable?, broken]
  rw [← unusable, asks]
  cases isGrayHit config deviceId <;> cases (usable? gray).isSome <;> decide

end Asks

variable (config : Config) (deviceId : String)
  (resolve : String → StateM State (Except Fault Code)) (state : State)

/-- On a hit the gray code is chosen if it can be used, and the release in all other cases. -/
theorem selectCode_eq :
    selectCode config deviceId resolve state =
      if isGrayHit config deviceId then
        match usable? (resolve config.grayReleaseCode state).1 with
        | some code => (.ok ⟨code, true⟩, (resolve config.grayReleaseCode state).2)
        | none => releaseChoice config resolve (resolve config.grayReleaseCode state).2
      else releaseChoice config resolve state := by
  unfold selectCode
  generalize stable_def : resolve config.releasedCode >>= _ = stable
  have stable_eq (state : State) : stable state = releaseChoice config resolve state := by
    rw [← stable_def]
    simp only [bind, StateT.bind, releaseChoice]
    rcases resolve config.releasedCode state with ⟨fault | code, after⟩ <;> rfl
  by_cases hit : isGrayHit config deviceId = true
  · simp only [if_pos hit, bind, StateT.bind]
    rcases resolve config.grayReleaseCode state with ⟨fault | code, after⟩
    · exact stable_eq after
    · by_cases broken : code.isBroken = true
      · simp only [usable?, if_pos broken]
        exact stable_eq after
      · simp only [usable?, if_neg broken]
        rfl
  · simp only [if_neg hit]
    exact stable_eq state

/-- Without a rollout the released code version is chosen. -/
theorem selectCode_zero :
    selectCode { config with percentage := 0 } deviceId resolve state
      = releaseChoice config resolve state := by
  rw [selectCode_eq]
  rfl

/-- The release is not chosen as the gray code. -/
theorem releaseChoice_ne_gray (code : Code) :
    (releaseChoice config resolve state).1 ≠ .ok ⟨code, true⟩ := by
  simp only [releaseChoice]
  rcases resolve config.releasedCode state with ⟨fault | released, after⟩ <;> simp [Except.map]

/-- The gray code version is chosen for a device that is to get it, if it can be used. -/
theorem selectCode_gray_iff (code : Code) :
    (selectCode config deviceId resolve state).1 = .ok ⟨code, true⟩ ↔
      isGrayHit config deviceId = true ∧
      usable? (resolve config.grayReleaseCode state).1 = some code := by
  rw [selectCode_eq]
  by_cases hit : isGrayHit config deviceId = true
  · rw [if_pos hit]
    cases usable? (resolve config.grayReleaseCode state).1 with
    | some gray => simp [hit]
    | none => simp [releaseChoice_ne_gray]
  · rw [if_neg hit]
    simp [hit, releaseChoice_ne_gray]

/-- If it is not, the released one is chosen. -/
theorem selectCode_of_not_gray
    (notGray : ∀ code, (selectCode config deviceId resolve state).1 ≠ .ok ⟨code, true⟩) :
    selectCode config deviceId resolve state
      = releaseChoice config resolve
        (if isGrayHit config deviceId then (resolve config.grayReleaseCode state).2
          else state) := by
  rw [selectCode_eq]
  by_cases hit : isGrayHit config deviceId = true
  · have unusable : usable? (resolve config.grayReleaseCode state).1 = none :=
      Option.eq_none_iff_forall_ne_some.mpr fun code usable =>
        notGray code ((selectCode_gray_iff ..).mpr ⟨hit, usable⟩)
    rw [if_pos hit, if_pos hit, unusable]
  · rw [if_neg hit, if_neg hit]

/-- Listing what is asked for changes nothing. -/
theorem selectCode_asking :
    selectCode config deviceId (asking resolve) ([], state) =
      let (answer, after) := selectCode config deviceId resolve state
      (answer,
        (asks config deviceId (resolve config.grayReleaseCode state).1).map (·.codeId config),
        after) := by
  have lists : asking resolve config.grayReleaseCode ([], state)
      = ((resolve config.grayReleaseCode state).1, [config.grayReleaseCode],
        (resolve config.grayReleaseCode state).2) := rfl
  rw [selectCode_eq, selectCode_eq, asks, lists]
  by_cases hit : isGrayHit config deviceId = true
  · simp only [hit, if_true, true_and]
    cases usable? (resolve config.grayReleaseCode state).1 <;> rfl
  · simp only [hit]
    rfl

/-- The choice of a code version falls back to the released one when the gray one cannot be used,
and on nothing else. -/
structure FallsBack : Prop where
  /-- What is asked for, in its order; noting that down changes nothing. -/
  asked : selectCode config deviceId (asking resolve) ([], state) =
    let (answer, after) := selectCode config deviceId resolve state
    (answer, (asks config deviceId (resolve config.grayReleaseCode state).1).map (·.codeId config),
      after)
  once : (asks config deviceId (resolve config.grayReleaseCode state).1).Nodup
  gray_first_iff :
    (asks config deviceId (resolve config.grayReleaseCode state).1).head? = some .gray ↔
      isGrayHit config deviceId = true
  released_iff : .released ∈ asks config deviceId (resolve config.grayReleaseCode state).1 ↔
    isGrayHit config deviceId = false ∨
      ∀ code, (resolve config.grayReleaseCode state).1 = .ok code → code.isBroken = true
  chosen_iff : ∀ code, (selectCode config deviceId resolve state).1 = .ok ⟨code, true⟩ ↔
    isGrayHit config deviceId = true ∧
    (resolve config.grayReleaseCode state).1 = .ok code ∧ code.isBroken = false
  /-- Whatever else is chosen, or fails, is what it is without a rollout, after the look-up of the
  gray code version if there was one. -/
  otherwise : (∀ code, (selectCode config deviceId resolve state).1 ≠ .ok ⟨code, true⟩) →
    selectCode config deviceId resolve state
      = selectCode { config with percentage := 0 } deviceId resolve
        (if isGrayHit config deviceId then (resolve config.grayReleaseCode state).2 else state)
  /-- It is as if there had been none, if the resolver answers by the identifier alone. -/
  traceless : (∀ id before after, (resolve id before).1 = (resolve id after).1) →
    (∀ code, (selectCode config deviceId resolve state).1 ≠ .ok ⟨code, true⟩) →
    (selectCode config deviceId resolve state).1
      = (selectCode { config with percentage := 0 } deviceId resolve state).1

/-- The choice falls back to the release. -/
theorem fallsBack : FallsBack config deviceId resolve state where
  asked := selectCode_asking ..
  once := nodup_asks ..
  gray_first_iff := head?_asks_iff ..
  released_iff := released_mem_asks_iff ..
  chosen_iff code := by rw [selectCode_gray_iff, usable?_eq_some_iff]
  otherwise notGray := by rw [selectCode_of_not_gray _ _ _ _ notGray, selectCode_zero]
  traceless byId notGray := by
    rw [selectCode_of_not_gray _ _ _ _ notGray, selectCode_zero]
    exact congrArg (Except.map (Selection.mk · false)) (byId ..)

end ConfigDelivery.Targeting
