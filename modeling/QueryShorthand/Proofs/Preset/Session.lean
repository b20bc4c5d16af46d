import QueryShorthand.Preset.Stock
import QueryShorthand.Proofs.Agreement

/-! A caller who configures one preset again and again, though some of the arguments are refused. -/
namespace QueryShorthand.Preset

variable {κ : Type} {o : Object κ} {read : List Text → Except Error κ} {site : Site}
  {args : List Text}

namespace Object

/-- Each call reads all of its arguments before it writes: what was read replaces the columns, and
if the arguments are refused everything stays. -/
def Takes (o : Object κ) (read : List Text → Except Error κ) : Prop :=
  ∀ (s : State κ) (args : List Text), o.call s args = match read args with
    | .ok c => (.ok (), { s with columns := c })
    | .error e => (.error e, s)

namespace Takes

theorem site_call (ho : o.Takes read) (s : State κ) (args : List Text) :
    (o.call s args).2.site = s.site := by
  rw [ho s args]
  cases read args with
  | ok c => rfl
  | error e => rfl

theorem site_after (ho : o.Takes read) (site : Site) (calls : List (List Text)) :
    (o.after site calls).site = site := by
  have keeps (s : State κ) : (calls.foldl (fun s args => (o.call s args).2) s).site = s.site := by
    induction calls generalizing s with
    | nil => rfl
    | cons args calls ih => exact (ih _).trans (ho.site_call s args)
  exact keeps (o.new site)

theorem after_concat (ho : o.Takes read) {c : κ} (hc : read args = .ok c)
    (calls : List (List Text)) :
    o.after site (calls ++ [args]) = { site, columns := c } := by
  have hsite := ho.site_after site calls
  rw [after, List.foldl_concat, ← after, ho, hc]
  simp only [hsite]

theorem check_template (ho : o.Takes read) (accepted : List (List Text)) :
    o.template.check site accepted args = (read args).map fun _ => () := by
  simp only [template, ho _ args]
  cases read args with
  | ok c => rfl
  | error e => rfl

end Takes

end Object

namespace Latest

def columns (args : List Text) : Except Error (Option (Text × Text)) :=
  match args with
  | [group, order] => do return some (← bareColumn name group, ← bareColumn name order)
  | _ =>
    .error (.presetArguments name ("expected 2 arguments, got ".toList ++ Text.ofNat args.length))

theorem takes : object.Takes columns := by
  intro s args
  match args with
  | [group, order] =>
    simp only [Object.call, object, init, columns]
    cases bareColumn name group with
    | error e => rfl
    | ok g =>
      cases bareColumn name order with
      | error e => rfl
      | ok o => rfl
  | [] | [_] | _ :: _ :: _ :: _ => rfl

end Latest

namespace Distinct

def columns (args : List Text) : Except Error (List Text) :=
  if args.isEmpty then .error (.presetArguments name "expected at least one column".toList)
  else args.mapM (bareColumn name)

theorem takes : object.Takes columns := by
  intro s args
  simp only [Object.call, object, init, columns]
  split
  · rfl
  · cases args.mapM (bareColumn name) with
    | error e => rfl
    | ok c => rfl

end Distinct

/-- What a caller holds, and the arguments of the last call that succeeded. -/
structure Session (κ : Type) where
  state : State κ
  last : Option (List Text) := none

namespace Session

variable {s : Session κ}

/-- One call. The caller goes on with the state that it leaves, also where it is refused. -/
def call (o : Object κ) (s : Session κ) (args : List Text) : Session κ :=
  match o.call s.state args with
  | (.ok (), state) => { state, last := some args }
  | (.error _, state) => { s with state }

def run (o : Object κ) (site : Site) (calls : List (List Text)) : Session κ :=
  calls.foldl (call o) { state := o.new site }

/-- The columns of a session are those of its last accepted call, and unset if there is none. -/
structure Tracks (o : Object κ) (read : List Text → Except Error κ) (site : Site) (s : Session κ) :
    Prop where
  site : s.state.site = site
  unset : s.last = none → s.state.columns = o.unset
  set : ∀ args, s.last = some args → read args = .ok s.state.columns

theorem tracks_new : Tracks o read site { state := o.new site } := by
  constructor
  · rfl
  · intro _
    rfl
  · intro args h
    cases h

/-- A call that is refused changes nothing, and one that succeeds replaces what was accepted
last. -/
theorem Tracks.call (ho : o.Takes read) (h : Tracks o read site s) (args : List Text) :
    Tracks o read site (s.call o args) := by
  unfold Session.call
  rw [ho]
  cases hc : read args with
  | error e => exact h
  | ok c =>
    constructor
    · exact h.site
    · intro hlast
      cases hlast
    · intro args' hlast
      cases hlast
      exact hc

theorem tracks_run (ho : o.Takes read) (calls : List (List Text)) :
    Tracks o read site (run o site calls) := by
  have keeps (s : Session κ) (h : Tracks o read site s) :
      Tracks o read site (calls.foldl (Session.call o) s) := by
    induction calls generalizing s with
    | nil => exact h
    | cons args calls ih => exact ih _ (h.call ho args)
  exact keeps _ tracks_new

/-- The session is the one of a new object that gets the last accepted call alone. -/
theorem run_last (ho : o.Takes read) (calls : List (List Text)) :
    run o site (run o site calls).last.toList = run o site calls := by
  have h : Tracks o read site (run o site calls) := tracks_run ho calls
  generalize run o site calls = s at h
  obtain ⟨⟨site', c⟩, last⟩ := s
  obtain rfl : site' = site := h.site
  cases last with
  | none =>
    obtain rfl : c = o.unset := h.unset rfl
    rfl
  | some args =>
    have hargs : read args = .ok c := h.set args rfl
    simp only [Option.toList, run, List.foldl_cons, List.foldl_nil, call, ho _ args, hargs,
      Object.new]

end Session

/-- After any calls, some of them refused, the SQL of a stock preset is that of a new one given the
last accepted call alone, which is accepted there too; if none was accepted, it is that of a new one
as it is. -/
theorem sql_of_calls (site : Site) (calls : List (List Text)) :
    let latest := Session.run Latest.object site calls
    let newLatest := Session.run Latest.object site latest.last.toList
    let distinct := Session.run Distinct.object site calls
    let newDistinct := Session.run Distinct.object site distinct.last.toList
    (newLatest.last = latest.last ∧
      Latest.object.sql latest.state = Latest.object.sql newLatest.state) ∧
    (newDistinct.last = distinct.last ∧
      Distinct.object.sql distinct.state = Distinct.object.sql newDistinct.state) := by
  intro latest newLatest distinct newDistinct
  have hlatest : newLatest = latest := Session.run_last Latest.takes calls
  have hdistinct : newDistinct = distinct := Session.run_last Distinct.takes calls
  rw [hlatest, hdistinct]
  exact ⟨⟨rfl, rfl⟩, rfl, rfl⟩

/-- The wrong number of arguments is refused, and so is what is no column, behind one that is. -/
example : (Session.run Latest.object ⟨{}, "posts".toList, ['p']⟩
    [[['a'], ['b']], [['c']], [['c'], "d e".toList]]).last =
      some [['a'], ['b']] := by decide +kernel

variable {name : Text} {accepted : List (List Text)} {p : Preset} {s : Session κ}

theorem configure_object (ho : o.Takes read) : configure ⟨name, o.template, site, accepted⟩ args =
    (read args).map fun _ => ⟨name, o.template, site, accepted ++ [args]⟩ := by
  rw [configure, ho.check_template]
  cases read args with
  | error e => rfl
  | ok c => rfl

theorem sql_of_configured (ho : o.Takes read)
    (h : configure ⟨name, o.template, site, accepted⟩ args = .ok p) :
    ∃ c, read args = .ok c ∧ p.sql = o.sql { site, columns := c } := by
  rw [configure_object ho] at h
  cases hc : read args with
  | error e =>
    rw [hc] at h
    cases h
  | ok c =>
    rw [hc] at h
    cases h
    exact ⟨c, rfl, congrArg o.sql (ho.after_concat hc accepted)⟩

/-- What a caller goes on with who holds `p`: a refused call gives no new instance. -/
def held (p : Preset) (args : List Text) : Preset :=
  match p.configure args with
  | .ok q => q
  | .error _ => p

/-- The instance, which knows the accepted calls only, stands for the object in the state `s`. -/
structure StandsFor (p : Preset) (o : Object κ) (s : State κ) : Prop where
  template : p.template = o.template
  state : o.after p.site p.accepted = s

theorem StandsFor.sql_eq {s : State κ} (h : StandsFor p o s) : p.sql = o.sql s := by
  rw [sql, h.template, ← h.state]
  rfl

theorem StandsFor.held (ho : o.Takes read) (h : StandsFor p o s.state) (args : List Text) :
    StandsFor (held p args) o (s.call o args).state := by
  obtain ⟨name, template, site, accepted⟩ := p
  obtain rfl : template = o.template := h.template
  have hstate : o.after site accepted = s.state := h.state
  have hsite : s.state.site = site := hstate ▸ ho.site_after site accepted
  rw [Preset.held, configure_object ho, Session.call, ho]
  cases hc : read args with
  | error e => exact h
  | ok c => exact ⟨rfl, (ho.after_concat hc accepted).trans (congrArg (State.mk · c) hsite.symm)⟩

/-- Holding on to the instance where a call is refused is as good as going on with the object
itself. -/
theorem sql_of_held (ho : o.Takes read) (calls : List (List Text)) :
    (calls.foldl held ⟨name, o.template, site, []⟩).sql =
      o.sql (Session.run o site calls).state := by
  have keeps (p : Preset) (s : Session κ) (h : StandsFor p o s.state) :
      StandsFor (calls.foldl held p) o (calls.foldl (Session.call o) s).state := by
    induction calls generalizing p s with
    | nil => exact h
    | cons args calls ih => exact ih _ _ (h.held ho args)
  exact (keeps _ { state := o.new site } ⟨rfl, rfl⟩).sql_eq

end QueryShorthand.Preset
