/-
# What was read from a command line

A reading that comes to an end has judged every value it keeps, or keeps it waiting, and has left
no option out that stands in front of the place where it ended. Both follow from what one option
does to the reading. The environment has its say only afterwards, about the options that were not
given.
-/

import FileChat.CommandLine.Options
import FileChat.Proofs.Steps

namespace FileChat.CommandLine

/-- A value that a level can have for an option by this name. -/
def Level.Takes (level : Level) (option : String × String) : Prop :=
  ∃ flag ∈ level.flags, flag.name = option.1 ∧ flag.accepts option.2 = true

/-- An option by this name is among the arguments. -/
def Mentions (arguments : List String) (name : String) : Prop :=
  ∃ attached, .long name attached ∈ arguments.map Argument.ofString

theorem mentions_cons {argument : String} {later : List String} {name : String} :
    Mentions (argument :: later) name ↔
      (∃ attached, Argument.ofString argument = .long name attached) ∨ Mentions later name := by
  simp only [Mentions, List.map_cons, List.mem_cons, exists_or, eq_comm]

theorem Mentions.of_cons {argument : String} {later : List String} {name : String}
    (hmentions : Mentions (argument :: later) name)
    (hargument : ∀ attached, Argument.ofString argument ≠ .long name attached) :
    Mentions later name := by
  obtain ⟨attached, hattached⟩ | hlater := mentions_cons.mp hmentions
  · exact absurd hattached (hargument attached)
  · exact hlater

theorem Flag.note_eq_ok {flag : Flag} {value : String} {given more : Given}
    (hnote : flag.note value given = .ok more) :
    flag.accepts value = true ∧ more = (flag.name, value) :: given := by
  unfold Flag.note at hnote
  split at hnote
  · cases hnote
  · rename_i hfits
    simp only [Bool.or_eq_true, Bool.not_eq_true', not_or, Bool.not_eq_false] at hfits
    exact ⟨hfits.2, (Except.ok.inj hnote).symm⟩

namespace Reading

/-- The options that were read, and the one that is waiting. -/
def options (r : Reading) : Given :=
  (r.waiting.map fun (flag, value) => (flag.name, value)).toList ++ r.given

theorem settle_eq_ok {r : Reading} {given : Given} (hsettle : r.settle = .ok given) :
    given = r.options ∧
      ∀ flag value, r.waiting = some (flag, value) → flag.accepts value = true := by
  obtain ⟨noted, _ | ⟨flag, value⟩⟩ := r
  · cases hsettle
    exact ⟨rfl, fun _ _ h => nomatch h⟩
  · obtain ⟨haccepts, rfl⟩ := Flag.note_eq_ok hsettle
    refine ⟨rfl, fun other text hwaiting => ?_⟩
    cases hwaiting
    exact haccepts

/-- What was noted is a value for an option of the level, and what is waiting is for one. -/
structure Fits (level : Level) (r : Reading) : Prop where
  given : ∀ option ∈ r.given, level.Takes option
  waiting : ∀ flag value, r.waiting = some (flag, value) → flag ∈ level.flags

theorem fits_empty (level : Level) : Fits level .empty :=
  ⟨fun _ h => (List.not_mem_nil h).elim, fun _ _ h => nomatch h⟩

theorem Fits.settle {level : Level} {r : Reading} {given : Given} (hfits : r.Fits level)
    (hsettle : r.settle = .ok given) : ∀ option ∈ given, level.Takes option := by
  obtain ⟨rfl, haccepts⟩ := settle_eq_ok hsettle
  intro option hoption
  obtain hwaiting | hgiven := List.mem_append.mp hoption
  · obtain ⟨⟨flag, value⟩, hflag, rfl⟩ := Option.map_eq_some_iff.mp (Option.mem_toList.mp hwaiting)
    exact ⟨flag, hfits.waiting flag value hflag, rfl, haccepts flag value hflag⟩
  · exact hfits.given option hgiven

end Reading

namespace Level

variable {level : Level} {r s reading : Reading} {arguments before after : List String}
variable {rest : Rest}

/-- What reading does to one option or to the separator. -/
inductive Step (level : Level) : Reading → List String → Reading → List String → Prop
  /-- The value is attached to the option. -/
  | attached {r : Reading} {given more : Given} {flag : Flag} {value argument : String}
      {later : List String} (hargument : Argument.ofString argument = .long flag.name (some value))
      (hflag : flag ∈ level.flags) (hsettle : r.settle = .ok given)
      (hnote : flag.note value given = .ok more) :
      Step level r (argument :: later) ⟨more, none⟩ later
  /-- The value is the next argument. -/
  | next {r : Reading} {given : Given} {flag : Flag} {value argument : String}
      {later : List String} (hargument : Argument.ofString argument = .long flag.name none)
      (hvalue : Argument.ofString value = .word) (hflag : flag ∈ level.flags)
      (hsettle : r.settle = .ok given) :
      Step level r (argument :: value :: later) ⟨given, some (flag, value)⟩ later
  | separator {r : Reading} {argument : String} {later : List String}
      (hargument : Argument.ofString argument = .separator) :
      Step level r (argument :: later) r later

/-- What every step preserves holds where the reading ends. -/
theorem holds_of_read {P : Reading → List String → Prop}
    (hstep : ∀ {r before s after}, level.Step r before s after → P r before → P s after)
    (hread : level.read r arguments = .ok (reading, rest)) (hstart : P r arguments) :
    P reading rest.arguments := by
  have hnamed {name : String} {flag : Flag}
      (hfind : level.flags.find? (·.name = name) = some flag) :
      flag ∈ level.flags ∧ flag.name = name := by
    have hname := List.find?_some hfind
    exact ⟨List.mem_of_find?_eq_some hfind, of_decide_eq_true hname⟩
  fun_induction Level.read level r arguments with
  | case1 r =>
      cases hread
      exact hstart
  | case2 r argument later hargument =>
      cases hread
      exact hstep (.separator hargument) hstart
  | case3 r argument later hargument =>
      cases hread
      exact hstart
  | case4 r argument later letter hargument =>
      cases hsettle : r.settle <;> rw [hsettle] at hread <;> cases hread
  | case8 r argument name given hsettle flag value later hfind more hnote hargument ih =>
      obtain ⟨hflag, rfl⟩ := hnamed hfind
      exact ih hread (hstep (.attached hargument hflag hsettle hnote) hstart)
  | case10 r argument name given hsettle flag value later hfind hvalue hargument ih =>
      obtain ⟨hflag, rfl⟩ := hnamed hfind
      exact ih hread (hstep (.next hargument hvalue hflag hsettle) hstart)
  | case5 | case6 | case7 | case9 | case11 => cases hread

theorem Step.fits (hstep : level.Step r before s after) (hfits : r.Fits level) : s.Fits level := by
  cases hstep with
  | attached hargument hflag hsettle hnote =>
      obtain ⟨haccepts, rfl⟩ := Flag.note_eq_ok hnote
      refine ⟨fun option hoption => ?_, fun _ _ h => nomatch h⟩
      obtain rfl | hgiven := List.mem_cons.mp hoption
      · exact ⟨_, hflag, rfl, haccepts⟩
      · exact hfits.settle hsettle option hgiven
  | next hargument hvalue hflag hsettle =>
      refine ⟨hfits.settle hsettle, fun flag value hwaiting => ?_⟩
      cases hwaiting
      exact hflag
  | separator hargument => exact hfits

/-- No step leaves an option out. -/
theorem Step.mem_options_or_mentions {name : String} (hstep : level.Step r before s after)
    (hname : name ∈ r.options.map Prod.fst ∨ Mentions before name) :
    name ∈ s.options.map Prod.fst ∨ Mentions after name := by
  cases hstep with
  | attached hargument hflag hsettle hnote =>
      obtain ⟨-, rfl⟩ := Flag.note_eq_ok hnote
      obtain ⟨rfl, -⟩ := Reading.settle_eq_ok hsettle
      obtain hread | hmentions := hname
      · exact .inl (List.mem_cons_of_mem _ hread)
      · obtain ⟨attached, hattached⟩ | hlater := mentions_cons.mp hmentions
        · obtain ⟨rfl, -⟩ := Argument.long.inj (hargument.symm.trans hattached)
          exact .inl List.mem_cons_self
        · exact .inr hlater
  | next hargument hvalue hflag hsettle =>
      obtain ⟨rfl, -⟩ := Reading.settle_eq_ok hsettle
      obtain hread | hmentions := hname
      · exact .inl (List.mem_cons_of_mem _ hread)
      · obtain ⟨attached, hattached⟩ | hlater := mentions_cons.mp hmentions
        · obtain ⟨rfl, -⟩ := Argument.long.inj (hargument.symm.trans hattached)
          exact .inl List.mem_cons_self
        · exact .inr (hlater.of_cons fun _ h => nomatch hvalue.symm.trans h)
  | separator hargument =>
      obtain hread | hmentions := hname
      · exact .inl hread
      · exact .inr (hmentions.of_cons fun _ h => nomatch hargument.symm.trans h)

/-- A reading that leaves no arguments has judged what it read and read what there is. -/
theorem takes_and_mem_of_read {given : Given}
    (hread : level.read .empty arguments = .ok (reading, rest)) (hrest : rest.arguments = [])
    (hsettle : reading.settle = .ok given) :
    (∀ option ∈ given, level.Takes option) ∧
      ∀ name, Mentions arguments name → name ∈ given.map Prod.fst := by
  constructor
  · have hfits : reading.Fits level :=
      holds_of_read (fun hstep hfits => hstep.fits hfits) hread (Reading.fits_empty level)
    exact hfits.settle hsettle
  · intro name hname
    obtain hoption | ⟨attached, hattached⟩ :=
      holds_of_read (fun hstep hname => hstep.mem_options_or_mentions hname) hread (.inr hname)
    · rw [(Reading.settle_eq_ok hsettle).1]
      exact hoption
    · rw [hrest] at hattached
      cases hattached

theorem standIn_congr {env other : Environment} {given : Given} {flag : Flag}
    (hsame : given.lookup flag.name = none → flag.key.bind env = flag.key.bind other) :
    standIn env given flag = standIn other given flag := by
  unfold standIn
  cases hgiven : given.lookup flag.name with
  | none => rw [hsame hgiven]
  | some value => rfl

theorem mapM_standIn_congr {env other : Environment} {given : Given} {flags : List Flag}
    (hsame : ∀ flag ∈ flags, given.lookup flag.name = none →
      flag.key.bind env = flag.key.bind other) :
    flags.mapM (standIn env given) = flags.mapM (standIn other given) := by
  induction flags with
  | nil => rfl
  | cons flag later ih =>
      rw [List.mapM_cons, List.mapM_cons, standIn_congr (hsame flag List.mem_cons_self),
        ih fun flag hflag => hsame flag (List.mem_cons_of_mem _ hflag)]

/-- The environment is only asked about options that were not given. -/
theorem standIns_congr {env other : Environment} {given : Given}
    (hsame : ∀ flag ∈ level.flags, given.lookup flag.name = none →
      flag.key.bind env = flag.key.bind other) :
    level.standIns env given = level.standIns other given := by
  rw [standIns, standIns, mapM_standIn_congr hsame]

/-- What the environment says about an option, which is nothing if the option is given. -/
def unsaid (env : Environment) (given : Given) (flag : Flag) : Option String :=
  if (given.lookup flag.name).isSome then none else flag.key.bind env

theorem standIn_eq_ok {env : Environment} {given more : Given} {flag : Flag}
    (hstand : standIn env given flag = .ok more) :
    more = ((unsaid env given flag).map fun value => (flag.name, value)).toList := by
  unfold standIn at hstand
  unfold unsaid
  cases hgiven : given.lookup flag.name with
  | some value =>
      simp only [hgiven] at hstand
      exact (Except.ok.inj hstand).symm
  | none =>
      rw [hgiven] at hstand
      cases hkey : flag.key.bind env with
      | none =>
          rw [hkey] at hstand
          exact (Except.ok.inj hstand).symm
      | some value =>
          rw [hkey] at hstand
          exact (Flag.note_eq_ok hstand).2

theorem mapM_standIn_eq_ok {env : Environment} {given : Given} {flags : List Flag}
    {noted : List Given} (hnoted : flags.mapM (standIn env given) = .ok noted) :
    noted.flatten =
      flags.filterMap fun flag => (unsaid env given flag).map fun value => (flag.name, value) := by
  induction flags generalizing noted with
  | nil =>
      cases hnoted
      rfl
  | cons flag later ih =>
      simp only [List.mapM_cons, bind_eq_ok, pure_eq_ok] at hnoted
      obtain ⟨first, hfirst, rest, hrest, rfl⟩ := hnoted
      rw [List.flatten_cons, ih hrest, standIn_eq_ok hfirst, List.filterMap_cons]
      cases unsaid env given flag <;> rfl

/-- In a table by the names of options each has its own value. -/
theorem lookup_filterMap_name {flags : List Flag} (value? : Flag → Option String)
    (hnodup : (flags.map Flag.name).Nodup) {flag : Flag} (hflag : flag ∈ flags) :
    (flags.filterMap fun flag => (value? flag).map fun value => (flag.name, value)).lookup
      flag.name = value? flag := by
  induction flags with
  | nil => cases hflag
  | cons first later ih =>
      obtain ⟨hfirst, hlater⟩ := List.nodup_cons.mp hnodup
      have hother {other : Flag} (hother : other ∈ later) : (other.name == first.name) = false :=
        beq_false_of_ne fun hname => hfirst (hname ▸ List.mem_map_of_mem hother)
      rw [List.filterMap_cons]
      obtain rfl | hmem := List.mem_cons.mp hflag
      · cases value? flag with
        | some value => exact List.lookup_cons_self
        | none =>
            refine List.lookup_eq_none_iff.mpr fun option hoption => ?_
            obtain ⟨other, hmem, hvalue⟩ := List.mem_filterMap.mp hoption
            obtain ⟨value, -, rfl⟩ := Option.map_eq_some_iff.mp hvalue
            rw [bne_iff_ne]
            exact fun hname => (beq_eq_false_iff_ne.mp (hother hmem)) hname.symm
      · cases value? first with
        | some value =>
            rw [Option.map_some, List.lookup_cons, hother hmem]
            exact ih hlater hmem
        | none => exact ih hlater hmem

/-- An option says what is given for it or else what its variable holds. -/
theorem lookup_append_standIns {env : Environment} {given more : Given}
    (hnodup : (level.flags.map Flag.name).Nodup) (hmore : level.standIns env given = .ok more)
    {flag : Flag} (hflag : flag ∈ level.flags) :
    (given ++ more).lookup flag.name = (given.lookup flag.name).or (flag.key.bind env) := by
  have hlookup : more.lookup flag.name = unsaid env given flag := by
    unfold standIns at hmore
    cases hnoted : level.flags.mapM (standIn env given) with
    | error refusal =>
        rw [hnoted] at hmore
        cases hmore
    | ok noted =>
        rw [hnoted] at hmore
        rw [← Except.ok.inj hmore, mapM_standIn_eq_ok hnoted, lookup_filterMap_name _ hnodup hflag]
  rw [List.lookup_append, hlookup, unsaid]
  cases given.lookup flag.name <;> rfl

end Level

end FileChat.CommandLine
