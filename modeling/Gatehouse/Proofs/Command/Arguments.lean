import Gatehouse.Command.Arguments
import Gatehouse.Proofs.Traversal
import Mathlib.Data.Option.Basic

/-!
# Options that say nothing new

Arguments are read one after the other, an option together with its value. An option that is given
the value that it has anyway makes no difference, wherever it stands, as long as it is not given
twice and what stands before it is complete.
-/

namespace Gatehouse.Command

namespace Given

/-- What is given with one more option. -/
def withOption (g : Given) (name value : String) : Given :=
  { g with options := g.options ++ [(name, value)] }

theorem value?_withOption (g : Given) (name value n : String) :
    (g.withOption name value).value? n = (g.value? n).or (if n = name then some value else none) := by
  rw [value?, withOption, List.lookup_append]
  congr 1
  by_cases h : n = name
  · rw [if_pos h, h, List.lookup_cons_self]
  · rw [if_neg h, List.lookup_cons, beq_eq_false_iff_ne.2 h]
    rfl

/-- What is given later does not touch an option that has a value. -/
theorem value?_withOption_of_eq_some {g : Given} {n v : String} (h : g.value? n = some v)
    (name value : String) : (g.withOption name value).value? n = some v := by
  rw [value?_withOption, h, Option.some_or]

/-- Two readings differ in one option at most. -/
structure AlikeBut (name : String) (g g' : Given) : Prop where
  flags : g'.flags = g.flags
  operands : g'.operands = g.operands
  other : ∀ n, n ≠ name → g'.value? n = g.value? n

variable {name : String} {g g' : Given}

theorem AlikeBut.symm (h : g.AlikeBut name g') : g'.AlikeBut name g where
  flags := h.flags.symm
  operands := h.operands.symm
  other n hn := (h.other n hn).symm

theorem alikeBut_withOption (g : Given) (name value : String) :
    g.AlikeBut name (g.withOption name value) where
  flags := rfl
  operands := rfl
  other n hn := by rw [value?_withOption, if_neg hn, Option.or_none]

theorem AlikeBut.has_of_ne (h : g.AlikeBut name g') {n : String} (hn : n ≠ name) :
    g'.has n = g.has n := by
  rw [has, has, h.other n hn, h.flags]

theorem AlikeBut.withOption (h : g.AlikeBut name g') (n v : String) :
    (g.withOption n v).AlikeBut name (g'.withOption n v) where
  flags := h.flags
  operands := h.operands
  other m hm := by rw [value?_withOption, value?_withOption, h.other m hm]

theorem value?_eq_none_of_has {n : String} (h : g.has n = false) : g.value? n = none := by
  rw [has, Bool.or_eq_false_iff] at h
  exact Option.isSome_eq_false_iff.1 h.1 |> Option.isNone_iff_eq_none.1

end Given

namespace Form

variable {f : Form} {name value : String} {g g' : Given}

/-! ## One argument after the other -/

/-- What one argument gives, with the value behind it if it takes one, and what is left. -/
inductive Gives (f : Form) (g : Given) : String → List String → Given → List String → Prop where
  | operand {arg rest given} (hform : looksLikeOption arg = false)
      (hgiven : f.withOperands? g [arg] = some given) : Gives f g arg rest given rest
  | flag {arg rest name} (hform : looksLikeOption arg = true)
      (hname : nameOf? arg = some (name, none)) (hnew : g.has name = false)
      (hflag : f.flags.contains name = true) :
      Gives f g arg rest { g with flags := g.flags ++ [name] } rest
  | joined {arg rest name value} (hform : looksLikeOption arg = true)
      (hname : nameOf? arg = some (name, some value)) (hnew : g.has name = false)
      (hflag : f.flags.contains name = false) (hoption : f.options.any (·.name == name) = true) :
      Gives f g arg rest (g.withOption name value) rest
  | separate {arg value rest name} (hform : looksLikeOption arg = true)
      (hname : nameOf? arg = some (name, none)) (hnew : g.has name = false)
      (hflag : f.flags.contains name = false) (hoption : f.options.any (·.name == name) = true)
      (hvalue : looksLikeOption value = false) :
      Gives f g arg (value :: rest) (g.withOption name value) rest

/-- The first argument decides with what the reading of the others goes on. -/
theorem readArguments?_of_gives {arg : String} {rest rest' : List String} (harg : arg ≠ "--")
    (h : f.Gives g arg rest g' rest') :
    f.readArguments? (arg :: rest) g = f.readArguments? rest' g' := by
  rw [readArguments?.eq_def]
  dsimp only
  rw [if_neg harg]
  cases h with
  | operand hform hgiven => simp [hform, hgiven]
  | flag hform hname hnew hflag =>
    simp only [hform, hname, hnew, hflag, Bool.not_true, Bool.false_eq_true, if_false, if_true,
      Option.isSome_none]
  | joined hform hname hnew hflag hoption =>
    simp only [hform, hname, hnew, hflag, hoption, Bool.not_true, Bool.false_eq_true, if_false,
      if_true]
    rfl
  | separate hform hname hnew hflag hoption hvalue =>
    simp only [hform, hname, hnew, hflag, hoption, hvalue, Bool.not_true, Bool.false_eq_true,
      if_false, if_true]
    rfl

/-- Arguments that can be read have a first one that gives something. -/
theorem exists_gives {arg : String} {rest : List String} {r : Given} (harg : arg ≠ "--")
    (h : f.readArguments? (arg :: rest) g = some r) :
    ∃ given rest', f.Gives g arg rest given rest' := by
  rw [readArguments?.eq_def] at h
  dsimp only at h
  rw [if_neg harg] at h
  split at h
  · rename_i hform
    obtain ⟨given, hgiven, -⟩ := Option.bind_eq_some_iff.1 h
    exact ⟨given, rest, .operand (by simpa using hform) hgiven⟩
  · rename_i hform
    have hform : looksLikeOption arg = true := by simpa using hform
    split at h
    · cases h
    · rename_i n v hname
      split at h
      · cases h
      · rename_i hnew
        have hnew : g.has n = false := by simpa using hnew
        split at h
        · -- A flag that comes with a value is refused.
          rename_i hflag
          split at h
          · cases h
          · rename_i hv
            obtain rfl : v = none := by simpa using hv
            exact ⟨_, rest, .flag hform hname hnew hflag⟩
        · rename_i hflag
          have hflag : f.flags.contains n = false := by simpa using hflag
          split at h
          · rename_i hoption
            split at h
            · exact ⟨_, rest, .joined hform hname hnew hflag hoption⟩
            · split at h
              · cases h
              · rename_i hvalue
                exact ⟨_, _, .separate hform hname hnew hflag hoption (by simpa using hvalue)⟩
            · cases h
          · cases h

theorem length_lt_of_gives {arg : String} {rest rest' : List String}
    (h : f.Gives g arg rest g' rest') : rest'.length < (arg :: rest).length := by
  cases h <;> (simp only [List.length_cons]; omega)

/-- Arguments are read to the end. -/
inductive Ends (f : Form) : Given → List String → Given → Prop where
  | nil {k} : Ends f k [] k
  | dashes {k rest r} (h : f.withOperands? k rest = some r) : Ends f k ("--" :: rest) r
  | step {k arg rest given rest' r} (harg : arg ≠ "--") (hstep : Gives f k arg rest given rest')
      (hrest : Ends f given rest' r) : Ends f k (arg :: rest) r

theorem ends_iff {args : List String} :
    f.Ends g args g' ↔ f.readArguments? args g = some g' := by
  constructor
  · intro h
    induction h with
    | nil => rw [readArguments?]
    | dashes h => rw [readArguments?, if_pos rfl, h]
    | step harg hstep _ ih => rw [readArguments?_of_gives harg hstep, ih]
  · -- Each argument leaves fewer behind, so the induction is on how many there are.
    intro h
    induction hn : args.length using Nat.strongRecOn generalizing args g with
    | ind n ih =>
      cases args with
      | nil =>
        rw [readArguments?] at h
        obtain rfl := Option.some.inj h
        exact .nil
      | cons arg rest =>
        by_cases harg : arg = "--"
        · subst harg
          rw [readArguments?, if_pos rfl] at h
          exact .dashes h
        · obtain ⟨given, rest', hgives⟩ := exists_gives harg h
          rw [readArguments?_of_gives harg hgives] at h
          exact .step harg hgives (ih _ (hn ▸ length_lt_of_gives hgives) h rfl)

/-! ## Complete arguments -/

theorem Gives.append {arg : String} {rest rest' : List String} (h : f.Gives g arg rest g' rest')
    (after : List String) : f.Gives g arg (rest ++ after) g' (rest' ++ after) := by
  cases h with
  | operand hform hgiven => exact .operand hform hgiven
  | flag hform hname hnew hflag => exact .flag hform hname hnew hflag
  | joined hform hname hnew hflag hoption => exact .joined hform hname hnew hflag hoption
  | separate hform hname hnew hflag hoption hvalue =>
    exact .separate hform hname hnew hflag hoption hvalue

theorem subset_of_gives {arg : String} {rest rest' : List String}
    (h : f.Gives g arg rest g' rest') : rest' ⊆ rest := by
  cases h with
  | separate => exact List.subset_cons_self _ _
  | _ => exact List.Subset.refl _

/-- Where arguments are complete, and do not say that only operands follow, what follows is read
with what they have given. -/
theorem readArguments?_append {before : List String} (h : f.Ends g before g')
    (hdashes : "--" ∉ before) (after : List String) :
    f.readArguments? (before ++ after) g = f.readArguments? after g' := by
  induction h with
  | nil => rfl
  | dashes _ => exact absurd List.mem_cons_self hdashes
  | step harg hstep _ ih =>
    have hrest := ih fun hmem => hdashes (List.mem_cons_of_mem _ (subset_of_gives hstep hmem))
    rw [List.cons_append, readArguments?_of_gives harg (hstep.append after), hrest]

/-! ## One option more or less -/

variable {k k' r : Given}

theorem eq_of_withOperands? {args : List String} (h : f.withOperands? k args = some r) :
    r = { k with operands := k.operands ++ args } := by
  rw [withOperands?] at h
  split at h
  · exact (Option.some.inj h).symm
  · cases h

theorem value?_of_gives {arg n v : String} {rest rest' : List String}
    (h : f.Gives k arg rest r rest') (hk : k.value? n = some v) : r.value? n = some v := by
  cases h with
  | operand _ hgiven =>
    rw [eq_of_withOperands? hgiven]
    exact hk
  | flag => exact hk
  | joined => exact Given.value?_withOption_of_eq_some hk _ _
  | separate => exact Given.value?_withOption_of_eq_some hk _ _

/-- An option that has a value keeps it. -/
theorem value?_of_ends {args : List String} {n v : String} (h : f.Ends k args r)
    (hk : k.value? n = some v) : r.value? n = some v := by
  induction h with
  | nil => exact hk
  | dashes hrest =>
    rw [eq_of_withOperands? hrest]
    exact hk
  | step _ hstep _ ih => exact ih (value?_of_gives hstep hk)

/-- What is no flag of the program is never read as one. -/
theorem flags_of_ends {args : List String} (h : f.Ends k args r)
    (hname : f.flags.contains name = false) (hk : k.flags.contains name = false) :
    r.flags.contains name = false := by
  induction h with
  | nil => exact hk
  | dashes hrest =>
    rw [eq_of_withOperands? hrest]
    exact hk
  | step _ hstep _ ih =>
    apply ih
    cases hstep with
    | operand _ hgiven =>
      rw [eq_of_withOperands? hgiven]
      exact hk
    | flag _ _ _ hflag =>
      rw [List.contains_append, hk, Bool.false_or, List.contains_cons, List.contains_nil,
        Bool.or_false, beq_eq_false_iff_ne]
      rintro rfl
      rw [hname] at hflag
      cases hflag
    | joined => exact hk
    | separate => exact hk

theorem withOperands?_of_alikeBut (h : k.AlikeBut name k') {args : List String}
    (hr : f.withOperands? k args = some r) :
    ∃ r', f.withOperands? k' args = some r' ∧ r.AlikeBut name r' ∧
      r'.value? name = k'.value? name := by
  obtain rfl := eq_of_withOperands? hr
  rw [withOperands?] at hr
  split at hr
  · rename_i hroom
    refine ⟨{ k' with operands := k'.operands ++ args }, ?_, ⟨h.flags, ?_, h.other⟩, rfl⟩
    · rw [withOperands?]
      exact if_pos (h.operands ▸ hroom)
    · exact congrArg (· ++ args) h.operands
  · cases hr

/-- An argument that does not give the option gives the same in both readings. -/
theorem exists_gives_of_alikeBut (h : k.AlikeBut name k') (hname : f.flags.contains name = false)
    {arg : String} {rest rest' : List String} (hstep : f.Gives k arg rest r rest')
    (hkept : r.value? name = k.value? name) :
    ∃ r', f.Gives k' arg rest r' rest' ∧ r.AlikeBut name r' ∧
      r'.value? name = k'.value? name := by
  -- An option that is new to one reading and is not this one is new to the other.
  have hnew : ∀ n, n ≠ name → k.has n = false → k'.has n = false :=
    fun n hn hfalse => (h.has_of_ne hn).trans hfalse
  have hother : ∀ n v, n ≠ name → (k'.withOption n v).value? name = k'.value? name := by
    intro n v hn
    rw [Given.value?_withOption, if_neg hn.symm, Option.or_none]
  have hne : ∀ n v, k.has n = false → (k.withOption n v).value? name = k.value? name →
      n ≠ name := by
    rintro n v hfresh hsame rfl
    rw [Given.value?_withOption, Given.value?_eq_none_of_has hfresh, if_pos rfl] at hsame
    cases hsame
  cases hstep with
  | operand hform hgiven =>
    obtain ⟨r', hgiven', halike, hvalue⟩ := withOperands?_of_alikeBut h hgiven
    exact ⟨r', .operand hform hgiven', halike, hvalue⟩
  | @flag _ n hform harg hfresh hflag =>
    have hn : n ≠ name := by
      rintro rfl
      rw [hname] at hflag
      cases hflag
    refine ⟨_, .flag hform harg (hnew n hn hfresh) hflag, ⟨?_, h.operands, h.other⟩, rfl⟩
    exact congrArg (· ++ [n]) h.flags
  | @joined _ n v hform harg hfresh hflag hoption =>
    have hn := hne n v hfresh hkept
    exact ⟨_, .joined hform harg (hnew n hn hfresh) hflag hoption, h.withOption n v, hother n v hn⟩
  | @separate v _ n hform harg hfresh hflag hoption hvalue =>
    have hn := hne n v hfresh hkept
    exact ⟨_, .separate hform harg (hnew n hn hfresh) hflag hoption hvalue, h.withOption n v,
      hother n v hn⟩

/-- Arguments that do not give the option give the same in both readings. -/
theorem exists_ends_of_alikeBut (hname : f.flags.contains name = false) {args : List String}
    (hends : f.Ends k args r) (hkept : r.value? name = k.value? name)
    (h : k.AlikeBut name k') :
    ∃ r', f.Ends k' args r' ∧ r.AlikeBut name r' ∧ r'.value? name = k'.value? name := by
  induction hends generalizing k' with
  | nil => exact ⟨k', .nil, h, rfl⟩
  | dashes hrest =>
    obtain ⟨r', hrest', halike, hvalue⟩ := withOperands?_of_alikeBut h hrest
    exact ⟨r', .dashes hrest', halike, hvalue⟩
  | @step k _ _ given _ r harg hstep hrest ih =>
    -- What stands at the end stood already after the first argument.
    have hfirst : given.value? name = k.value? name := by
      cases hk : k.value? name with
      | some v => exact value?_of_gives hstep hk
      | none =>
        cases hgiven : given.value? name with
        | none => rfl
        | some v =>
          have hend := value?_of_ends hrest hgiven
          rw [hkept, hk] at hend
          cases hend
    obtain ⟨given', hstep', halike, hvalue⟩ := exists_gives_of_alikeBut h hname hstep hfirst
    obtain ⟨r', hends', halike', hvalue'⟩ := ih (hkept.trans hfirst.symm) halike
    exact ⟨r', .step harg hstep' hends', halike', hvalue'.trans hvalue⟩

/-! ## What an option looks like -/

theorem looksLikeOption_dashes (name rest : String) :
    looksLikeOption ("--" ++ name ++ rest) = true := by
  have hchars : ("--" ++ name ++ rest).toList = '-' :: '-' :: (name.toList ++ rest.toList) := by
    simp
  have hstart : ("--" ++ name ++ rest).startsWith "-" = true := by
    rw [String.startsWith_string_iff, hchars]
    exact ⟨_, rfl⟩
  have hmore : "--" ++ name ++ rest ≠ "-" := by
    intro heq
    rw [heq] at hchars
    cases hchars
  rw [looksLikeOption, hstart, Bool.true_and]
  exact decide_eq_true hmore

theorem nameOf?_dashes {name : String} (h : '=' ∉ name.toList) :
    nameOf? ("--" ++ name) = some (name, none) := by
  have hall : ∀ c ∈ name.toList, (c != '=') = true := fun c hc =>
    bne_iff_ne.2 fun heq => h (heq ▸ hc)
  have hname : name.toList.takeWhile (· != '=') = name.toList := by
    simpa using @List.takeWhile_append_of_pos _ _ _ [] hall
  have hvalue : name.toList.dropWhile (· != '=') = [] := by
    simpa using @List.dropWhile_append_of_pos _ _ _ [] hall
  have hchars : ("--" ++ name).toList = '-' :: '-' :: name.toList := by simp
  simp only [nameOf?, hchars, hname, hvalue, String.ofList_toList]

theorem nameOf?_joined {name : String} (h : '=' ∉ name.toList) (value : String) :
    nameOf? ("--" ++ name ++ ("=" ++ value)) = some (name, some value) := by
  have hall : ∀ c ∈ name.toList, (c != '=') = true := fun c hc =>
    bne_iff_ne.2 fun heq => h (heq ▸ hc)
  have hchars : ("--" ++ name ++ ("=" ++ value)).toList =
      '-' :: '-' :: (name.toList ++ '=' :: value.toList) := by simp
  simp only [nameOf?, hchars, List.takeWhile_append_of_pos hall,
    List.dropWhile_append_of_pos hall]
  simp

/-- The ways to give an option a value. -/
inductive Spells (name value : String) : List String → Prop where
  | separate (h : looksLikeOption value = false) : Spells name value ["--" ++ name, value]
  | joined : Spells name value ["--" ++ name ++ ("=" ++ value)]

/-- An option that a program takes, and whose name can be told from its value. -/
structure Takes (f : Form) (name : String) : Prop where
  nonempty : name ≠ ""
  plain : '=' ∉ name.toList
  flag : f.flags.contains name = false
  option : f.options.any (·.name == name) = true

/-- However an option is given, its name is in the first argument. -/
theorem Takes.exists_name_of_spells (h : f.Takes name) {args : List String}
    (hargs : Spells name value args) : ∃ arg rest value?, args = arg :: rest ∧ arg ≠ "--" ∧
      looksLikeOption arg = true ∧ nameOf? arg = some (name, value?) := by
  -- Two hyphens alone would name an option without a name.
  have hdashes : ∀ arg value?, nameOf? arg = some (name, value?) → arg ≠ "--" := by
    rintro _ value? hname rfl
    have hempty : nameOf? "--" = some ("", none) := by decide +kernel
    rw [hempty] at hname
    exact h.nonempty (Prod.mk.inj (Option.some.inj hname)).1.symm
  cases hargs with
  | separate =>
    have hname := nameOf?_dashes h.plain
    refine ⟨_, _, none, rfl, hdashes _ _ hname, ?_, hname⟩
    simpa using looksLikeOption_dashes name ""
  | joined =>
    have hname := nameOf?_joined h.plain value
    exact ⟨_, _, some value, rfl, hdashes _ _ hname, looksLikeOption_dashes name _, hname⟩

theorem Takes.readArguments?_of_spells (h : f.Takes name) {args : List String}
    (hargs : Spells name value args) (hnew : k.has name = false) (after : List String) :
    f.readArguments? (args ++ after) k = f.readArguments? after (k.withOption name value) := by
  obtain ⟨_, _, _, hargs', harg, hform, hname⟩ := h.exists_name_of_spells hargs
  cases hargs with
  | separate hvalue =>
    obtain ⟨rfl, rfl⟩ := List.cons.inj hargs'
    exact readArguments?_of_gives harg
      (.separate hform (nameOf?_dashes h.plain) hnew h.flag h.option hvalue)
  | joined =>
    obtain ⟨rfl, rfl⟩ := List.cons.inj hargs'
    exact readArguments?_of_gives harg
      (.joined hform (nameOf?_joined h.plain value) hnew h.flag h.option)

/-- An option that is given already cannot be given again. -/
theorem Takes.has_of_spells (h : f.Takes name) {args after : List String}
    (hargs : Spells name value args) (hr : f.readArguments? (args ++ after) k = some r) :
    k.has name = false := by
  obtain ⟨arg, rest, value?, rfl, harg, hform, hname⟩ := h.exists_name_of_spells hargs
  obtain ⟨_, _, hgives⟩ := exists_gives harg hr
  generalize rest.append after = rest at hgives
  cases hgives with
  | operand hoperand =>
    rw [hform] at hoperand
    cases hoperand
  | flag _ hname' hnew | joined _ hname' hnew | separate _ hname' hnew =>
    rw [hname] at hname'
    rwa [← (Prod.mk.inj (Option.some.inj hname')).1] at hnew

/-! ## Options that say nothing new -/

/-- An option that has a value of its own accord, whatever the environment. -/
structure Presets (f : Form) (name value : String) : Prop where
  source : ∀ o ∈ f.options, o.name = name → o.source? = none
  default : ∀ o ∈ f.options, o.name = name → o.default? = some value

/-- The entry of an option that an argument, a variable or a default gives a value. -/
def entry? (o : Opt) (env : Variables) (given? : Option String) :
    Option (Option (String × String)) :=
  match given? <|> o.source?.bind (List.lookup · env) <|> o.default? with
  | none => some none
  | some value => if o.kind.admits value then some (some (o.name, value)) else none

theorem complete?_eq (env : Variables) : f.complete? env k =
    (f.options.mapM fun o => entry? o env (k.value? o.name)).bind
      fun entries => some { k with options := entries.filterMap id } := rfl

/-- Readings are completed alike if one gives an option the value that the other leaves to it. -/
theorem Presets.complete?_eq (hpreset : f.Presets name value) (h : k.AlikeBut name k')
    (hk : k.value? name = none) (hk' : k'.value? name = some value) (env : Variables) :
    f.complete? env k' = f.complete? env k := by
  have hentry : ∀ o ∈ f.options,
      entry? o env (k'.value? o.name) = entry? o env (k.value? o.name) := by
    intro o ho
    by_cases hname : o.name = name
    · rw [hname, hk, hk', entry?, entry?, hpreset.source o ho hname,
        hpreset.default o ho hname]
      rfl
    · rw [h.other _ hname]
  rw [Form.complete?_eq, Form.complete?_eq, Traversal.mapM_congr hentry, h.flags, h.operands]

/-- A place between arguments where an option can be given: what stands before it is complete, and
does not say that only operands follow, and the option is not given otherwise. -/
structure RoomFor (f : Form) (name : String) (before after : List String) : Prop where
  complete : (f.readArguments? before {}).isSome
  dashes : "--" ∉ before
  fresh : ∀ r, f.readArguments? (before ++ after) {} = some r → r.value? name = none

/-- The value that an option has anyway may as well be given, wherever there is room for it. -/
theorem Presets.read?_eq (hpreset : f.Presets name value) (h : f.Takes name) {args : List String}
    (hargs : Spells name value args) {before after : List String}
    (hroom : f.RoomFor name before after) (env : Variables) :
    f.read? env (before ++ args ++ after) = f.read? env (before ++ after) := by
  obtain ⟨hbefore, hdashes, hgiven⟩ := hroom
  obtain ⟨k, hk⟩ := Option.isSome_iff_exists.1 hbefore
  have hends := ends_iff.2 hk
  have hflag : k.flags.contains name = false :=
    flags_of_ends hends h.flag (k := {}) rfl
  rw [readArguments?_append hends hdashes] at hgiven
  rw [read?, read?, List.append_assoc, readArguments?_append hends hdashes,
    readArguments?_append hends hdashes]
  have hvalue : k.has name = false →
      (k.withOption name value).value? name = some value := by
    intro hnew
    rw [Given.value?_withOption, Given.value?_eq_none_of_has hnew, if_pos rfl, Option.none_or]
  -- The option has no value where the others are read without it, so it may be given one there;
  -- and where it is read with the others, they are read alike without it.
  cases hwithout : f.readArguments? after k with
  | some r =>
    have hnone := hgiven r hwithout
    have hnone' : k.value? name = none :=
      Option.eq_none_iff_forall_ne_some.2 fun v hv => by
        have hkept := value?_of_ends (ends_iff.2 hwithout) hv
        rw [hnone] at hkept
        cases hkept
    have hnew : k.has name = false := by
      rw [Given.has, hnone', hflag]
      rfl
    obtain ⟨r', hr', halike, hkept⟩ := exists_ends_of_alikeBut h.flag (ends_iff.2 hwithout)
      (hnone.trans hnone'.symm) (k.alikeBut_withOption name value)
    rw [h.readArguments?_of_spells hargs hnew, ends_iff.1 hr']
    exact hpreset.complete?_eq halike hnone (hkept.trans (hvalue hnew)) env
  | none =>
    cases hwith : f.readArguments? (args ++ after) k with
    | none => rfl
    | some r' =>
      have hnew := h.has_of_spells hargs hwith
      rw [h.readArguments?_of_spells hargs hnew] at hwith
      have hends' := ends_iff.2 hwith
      have hkept := value?_of_ends hends' (hvalue hnew)
      obtain ⟨r, hr, -⟩ := exists_ends_of_alikeBut h.flag hends' (hkept.trans (hvalue hnew).symm)
        (k.alikeBut_withOption name value).symm
      rw [ends_iff.1 hr] at hwithout
      cases hwithout

end Form
end Gatehouse.Command
