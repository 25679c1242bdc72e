import MarkupNaming.Proofs.CommandLine.Action

/-!
# Parts of commands

What each part of a command does to the files, and what its result is. Only saving settings and
writing a document change files, and each of them is the last thing that a command can fail at. What
a command has to print is left to the end of the run.
-/
namespace MarkupNaming

theorem Except.exists_of_bind {ε α β : Type} {x : Except ε α} {f : α → Except ε β} {b : β}
    (h : x >>= f = .ok b) : ∃ a, x = .ok a ∧ f a = .ok b := by
  cases x with
  | error e => cases h
  | ok a => exact ⟨a, rfl, h⟩

/-- What is found among items is one of them and satisfies the condition. -/
theorem of_findM? {ε α : Type} {p : α → Except ε Bool} {items : List α} {a : α}
    (h : items.findM? p = .ok (some a)) : a ∈ items ∧ p a = .ok true := by
  induction items with
  | nil => cases h
  | cons b items ih =>
    obtain ⟨found, hfound, h⟩ := Except.exists_of_bind h
    cases found with
    | true =>
      obtain rfl := Option.some.inj (Except.ok.inj h)
      exact ⟨List.mem_cons_self, hfound⟩
    | false => exact (ih h).imp_left (List.mem_cons_of_mem b)

/-- The settings that commands find in a file: the defaults as long as it is not there. -/
structure Settings.Stored (room : Yaml.Room) (files : FileTree) (directory p : Path)
    (s : Settings) : Prop where
  loaded : files.isFile directory p = .ok true → Settings.load room files directory p = .ok s
  fresh : files.isFile directory p ≠ .ok true → s = .defaults

namespace CommandLine.World
open Text Console Diagnostics Naming CommandLine.Action
variable {w : World} {files : FileTree} {place : SettingsPlace} {p file : Path} {document : Text}
  {c : Cursor} {outcome : Generation.Outcome}

/-! ## Reading -/

theorem keeps_load :
    Keeps (w.load p) files (Settings.load w.room w.files w.directory p = .ok ·) := by
  rw [World.load]
  split
  · next s h => exact keeps_pure h
  · exact (keeps_expect _).imp fun _ h => nomatch h
  · exact (keeps_require _).imp fun _ h => nomatch h

theorem keeps_settings : Keeps (w.settings place) files fun _ => True := by
  rw [World.settings]
  split
  · refine (keeps_require _).andThen fun there _ => ?_
    split
    · exact keeps_load.imp fun _ _ => trivial
    · exact keeps_throw _
  · refine (keeps_require _).andThen fun found _ => ?_
    cases found with
    | none => exact keeps_pure trivial
    | some p =>
      refine ((ends_inform _).keeps trivial).andThen fun _ (_ : True) => ?_
      exact keeps_load.imp fun _ _ => trivial

/-- Settings are looked for only under a path that is not too long. -/
theorem keeps_existingSettings :
    Keeps (w.existingSettings p) files fun s =>
      w.files.place w.directory p ≠ .error .tooLong ∧ s.Stored w.room w.files w.directory p := by
  refine (keeps_require _).andThen fun there hthere => ?_
  have hplace : w.files.place w.directory p ≠ .error .tooLong := by
    intro hlong
    rw [FileTree.isFile, hlong] at hthere
    cases hthere
  cases there with
  | true =>
    exact keeps_load.imp fun s hload =>
      ⟨hplace, fun _ => hload, fun hnone => absurd hthere hnone⟩
  | false =>
    exact keeps_pure ⟨hplace, fun h => (nomatch hthere.symm.trans h), fun _ => rfl⟩

theorem keeps_document :
    Keeps (w.document file) files (Generation.readDocument w.files w.directory file = .ok ·) := by
  rw [World.document]
  split
  · next t h => exact keeps_pure h
  · exact (keeps_expect _).imp fun _ h => nomatch h
  · exact (keeps_require _).imp fun _ h => nomatch h

theorem keeps_offsetIn : Keeps (offsetIn document c) files (c.resolve document = .ok ·) := by
  rw [offsetIn]
  split
  · next offset h => exact keeps_pure h
  · exact (keeps_expect _).imp fun _ h => nomatch h
  · exact keeps_throw _

/-! ## Naming -/

theorem keeps_tellAll {events : List Generation.Event} :
    Keeps (tellAll events) files fun _ => True := by
  refine Keeps.andThen (P := fun _ => True) ?_ fun _ _ => keeps_pure trivial
  induction events with
  | nil => exact keeps_pure trivial
  | cons event events ih =>
    rw [List.forIn_cons]
    have htell : Keeps (do
        tell (.event event.name event.payload)
        pure (ForInStep.yield PUnit.unit)) files (· = ForInStep.yield PUnit.unit) :=
      ((ends_tell _).keeps trivial).andThen fun _ (_ : True) => keeps_pure rfl
    refine htell.andThen fun step hstep => ?_
    subst hstep
    exact ih

theorem keeps_answer {request : Generation.Request} {applies : Bool} :
    Keeps (w.answer request applies) files
      ((if applies then request.apply w.surroundings w.today
        else request.generate w.surroundings w.today) = .ok ·) := by
  rw [World.answer]
  split
  · next outcome h => exact keeps_pure h
  · exact (keeps_require _).imp fun _ h => nomatch h
  · exact keeps_tellAll.andThen fun _ _ => (keeps_require _).imp fun _ h => nomatch h
  · exact (keeps_expect _).imp fun _ h => nomatch h

/-- An outcome that has been told of has a name. -/
theorem keeps_report : Keeps (report outcome) files fun _ => outcome.status.isOk = true := by
  refine keeps_tellAll.andThen fun _ _ => ?_
  cases hmessage : outcome.status.message? with
  | some message => exact (keeps_throw _).andThen fun _ (h : False) => h.elim
  | none =>
    have hok : outcome.status.isOk = true := by rw [Generation.Status.isOk, hmessage]; rfl
    cases outcome.element with
    | none => exact keeps_pure hok
    | some element =>
      refine keeps_get.andThen fun s _ => ?_
      split
      · exact (keeps_require _).andThen fun _ _ => (ends_emit _).keeps hok
      · exact keeps_pure hok

/-- An outcome with a name answers what is asked of the document that a target names. -/
theorem keeps_outcome {t : Target} {applies : Bool} :
    Keeps (w.outcome t applies) files fun outcome => outcome.status.isOk = true ∧
      ∃ settings document offset,
        Generation.readDocument w.files w.directory t.file = .ok document ∧
        t.cursor.resolve document = .ok offset ∧
        (if applies then
            (w.request t settings document offset).apply w.surroundings w.today
          else (w.request t settings document offset).generate w.surroundings w.today) =
          .ok outcome := by
  refine keeps_settings.andThen fun settings _ => ?_
  refine keeps_document.andThen fun document hdocument => ?_
  refine keeps_offsetIn.andThen fun offset hoffset => ?_
  refine keeps_answer.andThen fun outcome hanswer => ?_
  refine keeps_report.andThen fun _ hok => ?_
  exact keeps_pure ⟨hok, settings, document, offset, hdocument, hoffset, hanswer⟩

/-! ## Writing -/

/-- How an action ends that attempts a change of files, which may come to an end too early. -/
inductive Attempts (change : Except Unfinished FileTree) : Except Failure Unit → FileTree → Prop
  | finished {after : FileTree} (h : change = .ok after) : Attempts change (.ok ()) after
  | unfinished {u : Unfinished} (failure : Failure) (h : change = .error u) :
      Attempts change (.error failure) u.left

/-- An action that leaves the files as a change does, and fails if the change does. -/
theorem ends_attempts {change : Except Unfinished FileTree} {x : Action Unit}
    (hfinished : ∀ after, change = .ok after → x = leave after)
    (hunfinished : ∀ u, change = .error u → ∃ failure,
      x = leave u.left >>= fun _ => throw failure) : Ends x files (Attempts change) := by
  cases hchange : change with
  | ok after =>
    rw [hfinished after hchange]
    refine (ends_leave after).imp ?_
    rintro _ _ ⟨rfl, rfl⟩
    exact .finished rfl
  | error u =>
    obtain ⟨failure, hx⟩ := hunfinished u hchange
    rw [hx]
    refine (ends_leave u.left).bind (fun _ _ h => nomatch h.1) ?_
    rintro _ _ ⟨-, rfl⟩
    refine (ends_throw failure).imp ?_
    rintro _ _ ⟨rfl, rfl⟩
    exact .unfinished failure rfl

theorem ends_writeDocument : Ends (w.writeDocument document p) files
    (Attempts (w.files.write w.directory p document)) := by
  refine ends_attempts (fun after h => ?_) fun u h => ?_
  · rw [World.writeDocument, h]
  · rw [World.writeDocument, h]
    dsimp only
    cases u.fault with
    | content fault => exact ⟨_, rfl⟩
    | path fault =>
      dsimp only
      split <;> exact ⟨_, rfl⟩

theorem ends_save {s : Settings} :
    Ends (w.save s p) files (Attempts (s.save w.files w.directory p)) := by
  refine ends_attempts (fun after h => ?_) fun u h => ?_
  · rw [World.save, h]
  · rw [World.save, h]
    exact ⟨_, rfl⟩

/-- How the document of an outcome can be delivered. -/
inductive Delivers (w : World) (outcome : Generation.Outcome) (file : Path) :
    Option Path → Except Failure Text → FileTree → Prop
  | shown : Delivers w outcome file none (.ok (withoutEscapes outcome.updatedText)) w.files
  | kept (unchanged : changes outcome = false) :
      Delivers w outcome file (some file) (.ok (line outcome.className)) w.files
  | written {p : Path} {after : FileTree}
      (write : w.files.write w.directory p outcome.updatedText = .ok after) :
      Delivers w outcome file (some p) (.ok (line outcome.className)) after
  | refused {p : Path} {u : Unfinished} (failure : Failure)
      (write : w.files.write w.directory p outcome.updatedText = .error u) :
      Delivers w outcome file (some p) (.error failure) u.left

theorem keeps_warn : Keeps (warn outcome) files fun _ => True := by
  rw [warn]
  split
  · exact keeps_pure trivial
  · exact (ends_tell _).keeps trivial

theorem ends_deliver {output : Option Path} :
    Ends (w.deliver outcome file output) w.files (Delivers w outcome file output) := by
  cases output with
  | none => exact ends_pure .shown
  | some p =>
    rw [deliver]
    split
    · refine ends_writeDocument.bind ?_ ?_
      · rintro failure _ (_ | ⟨_, hwrite⟩)
        exact .refused failure hwrite
      · rintro _ after (hwrite | _)
        exact ends_pure (.written hwrite)
    · next h =>
      obtain ⟨hp, hchanges⟩ := not_or.1 h
      obtain rfl := Decidable.not_not.1 hp
      exact ends_pure (.kept (Bool.eq_false_iff.2 hchanges))

/-! ## Editing settings -/

/-- What commands can make of settings. -/
inductive Edit (w : World) : Command → Settings → Settings → Prop
  | addRule {name : Text} {segments : List Text} {id : Option Text} {separator : Text}
      {place : SettingsPlace} {s : Settings} {rule : Rule} (named : trim name ≠ [])
      (custom : Rule.preset? (w.ruleId id) = none)
      (made : Rule.ofCustom ⟨w.ruleId id, trim name, segments, separator⟩ = .ok rule) :
      Edit w (.addRule name segments id separator place) s
        (s.upsertRule ⟨w.ruleId id, trim name, segments, separator⟩)
  | removeRule {id : Text} {place : SettingsPlace} {s : Settings}
      (there : s.findRule? id ≠ none) :
      Edit w (.removeRule id place) s (s.removeRule id)
  | addRelease {name expiry : Text} {place : SettingsPlace} {s s' : Settings}
      (named : trim name ≠ []) (added : s.addRelease ⟨trim name, expiry⟩ = .ok s') :
      Edit w (.addRelease name expiry place) s s'
  | removeRelease {name : Text} {place : SettingsPlace} {s : Settings}
      (there : ∃ r ∈ s.releases, r.name = name) :
      Edit w (.removeRelease name place) s (s.removeRelease name)

/-- How a command can end that edits the settings at a place. -/
inductive Edits {α : Type} (w : World) (c : Command) (place : SettingsPlace) :
    Except Failure α → FileTree → Prop
  | refused (failure : Failure) : Edits w c place (.error failure) w.files
  | saved {p : Path} {s s' : Settings} {after : FileTree} (printed : α)
      (hp : w.settingsFile place = .ok p) (stored : s.Stored w.room w.files w.directory p)
      (edit : Edit w c s s') (save : s'.save w.files w.directory p = .ok after) :
      Edits w c place (.ok printed) after
  | unfinished {p : Path} {s s' : Settings} {left : Unfinished} (failure : Failure)
      (hp : w.settingsFile place = .ok p) (reached : w.files.place w.directory p ≠ .error .tooLong)
      (stored : s.Stored w.room w.files w.directory p) (edit : Edit w c s s')
      (save : s'.save w.files w.directory p = .error left) :
      Edits w c place (.error failure) left.left

/-- The place of the settings that a command edits. -/
def editedPlace? : Command → Option SettingsPlace
  | .addRule _ _ _ _ place | .removeRule _ place | .addRelease _ _ place
  | .removeRelease _ place => some place
  | _ => none

/-- What is made of the result of an edit decides about nothing else. -/
theorem Ends.edits {α β : Type} {x : Action α} {command : Command}
    (h : Ends x w.files (Edits w command place)) (f : α → β) :
    Ends (x >>= fun a => pure (f a)) w.files (Edits w command place) := by
  refine h.bind (fun failure after hedits => ?_) fun a after hedits => ends_pure ?_
  · cases hedits with
    | refused => exact .refused failure
    | unfinished _ hp reached stored edit save =>
      exact .unfinished failure hp reached stored edit save
  · cases hedits with
    | saved _ hp stored edit save => exact .saved (f a) hp stored edit save

/-- An action that begins with edited settings being saved, and then cannot fail. -/
theorem ends_save_then {command : Command} {s s' : Settings} {f : Unit → Action Text}
    (hp : w.settingsFile place = .ok p)
    (hs : w.files.place w.directory p ≠ .error .tooLong ∧ s.Stored w.room w.files w.directory p)
    (edit : Edit w command s s')
    (hrest : ∀ saved,
      Ends (f ()) saved fun r after => (∃ printed, r = .ok printed) ∧ after = saved) :
    Ends (w.save s' p >>= f) files (Edits w command place) := by
  refine ends_save.bind ?_ ?_
  · rintro failure _ (_ | ⟨_, hsave⟩)
    exact .unfinished failure hp hs.1 hs.2 edit hsave
  · rintro _ saved (hsave | _)
    refine (hrest saved).imp ?_
    rintro _ after ⟨⟨printed, rfl⟩, rfl⟩
    exact .saved printed hp hs.2 edit hsave

/-- A command that edits settings fails before it saves them, or saves the edited settings. -/
theorem ends_perform {command : Command} (h : editedPlace? command = some place) :
    Ends (w.perform command) w.files (Edits w command place) := by
  cases command with
  | addRule name segments id separator given =>
    obtain rfl := Option.some.inj h
    refine Ends.edits ?_ _
    refine (keeps_demand _ _).bind .refused fun _ hnamed => ?_
    refine (keeps_demand _ _).bind .refused fun _ hcustom => ?_
    refine (keeps_require _).bind .refused fun p hp => ?_
    refine (keeps_expect _).bind .refused fun rule hrule => ?_
    refine keeps_existingSettings.bind .refused fun s hs => ?_
    refine ends_save_then hp hs (.addRule hnamed hcustom hrule) fun saved => ?_
    refine (ends_inform _).bind (fun _ _ h => nomatch h.1) ?_
    rintro _ after ⟨-, rfl⟩
    exact ends_pure ⟨⟨_, rfl⟩, rfl⟩
  | removeRule id given =>
    obtain rfl := Option.some.inj h
    refine Ends.edits ?_ _
    refine (keeps_require _).bind .refused fun p hp => ?_
    refine keeps_existingSettings.bind .refused fun s hs => ?_
    refine (keeps_demand _ _).bind .refused fun _ hthere => ?_
    exact ends_save_then hp hs (.removeRule hthere) fun saved => ends_pure ⟨⟨_, rfl⟩, rfl⟩
  | addRelease name expiry given =>
    obtain rfl := Option.some.inj h
    refine Ends.edits ?_ _
    refine (keeps_demand _ _).bind .refused fun _ hnamed => ?_
    refine (keeps_require _).bind .refused fun p hp => ?_
    refine keeps_existingSettings.bind .refused fun s hs => ?_
    refine (keeps_expect _).bind .refused fun changed hadded => ?_
    exact ends_save_then hp hs (.addRelease hnamed hadded) fun saved => ends_pure ⟨⟨_, rfl⟩, rfl⟩
  | removeRelease name given =>
    obtain rfl := Option.some.inj h
    refine Ends.edits ?_ _
    refine (keeps_require _).bind .refused fun p hp => ?_
    refine keeps_existingSettings.bind .refused fun s hs => ?_
    refine (keeps_demand _ _).bind .refused fun _ hthere => ?_
    exact ends_save_then hp hs (.removeRelease hthere) fun saved => ends_pure ⟨⟨_, rfl⟩, rfl⟩
  | _ => cases h

end CommandLine.World

/-! ## Running -/

namespace CommandLine
variable {w : World} {args : List Text} {verbosity : Nat} {showsTracebacks : Bool}
  {command : Command}

/-- A text is printed if it has bytes there. -/
theorem Printout.problem?_eq_none_iff {stdout : Utf8.Handler} {p : Printout} :
    p.problem? stdout = none ↔ ∃ bytes, Utf8.encode stdout p.text = .ok bytes := by
  rw [problem?]
  cases Utf8.encode stdout p.text <;> simp

/-- Texts are printed if each of them has bytes. -/
theorem Printout.printAll_eq_none_iff {stdout : Utf8.Handler} {printouts : List Printout} :
    (printAll stdout printouts).2 = none ↔
      ∀ p ∈ printouts, ∃ bytes, Utf8.encode stdout p.text = .ok bytes := by
  induction printouts with
  | nil => simp [printAll]
  | cons p rest ih =>
    rw [printAll, List.forall_mem_cons, ← problem?_eq_none_iff, ← ih]
    cases p.problem? stdout <;> simp

/-- What a run prints of texts changes no files, and it succeeds if all of them are printed. -/
theorem Session.ending_eq (verbosity : Nat) (session : Session)
    (printed : Text × Option Diagnostics.Problem) :
    (session.ending verbosity printed).files = session.files ∧
      ((session.ending verbosity printed).exitCode = 0 ↔ printed.2 = none) := by
  obtain ⟨output, problem⟩ := printed
  cases problem <;> simp [Session.ending, Failure.ending]

/-- A run leaves the files as its command does, and succeeds if the command has a result that can be
printed. -/
theorem run_of_read
    (h : Request.read ⟨w.files, w.directory⟩ args = some (.run verbosity showsTracebacks command)) :
    (run w args).files =
        ((w.perform command).run.run (w.start verbosity showsTracebacks)).2.files ∧
      ((run w args).exitCode = 0 ↔ ∃ printouts,
        ((w.perform command).run.run (w.start verbosity showsTracebacks)).1 = .ok printouts ∧
        ∀ p ∈ printouts, ∃ bytes, Utf8.encode w.stdout p.text = .ok bytes) := by
  rw [run, h]
  dsimp only
  rcases (w.perform command).run.run (w.start verbosity showsTracebacks) with ⟨r, s⟩
  cases r with
  | ok printouts =>
    obtain ⟨hfiles, hcode⟩ := s.ending_eq verbosity (Printout.printAll w.stdout printouts)
    refine ⟨hfiles, hcode.trans (Printout.printAll_eq_none_iff.trans ?_)⟩
    simp only [Except.ok.injEq, exists_eq_left']
  | error failure => cases failure <;> simp [Failure.ending]

/-- A run that asks for no command leaves the files as they are. -/
theorem files_of_no_command (h : ¬∃ verbosity showsTracebacks command,
    Request.read ⟨w.files, w.directory⟩ args = some (.run verbosity showsTracebacks command)) :
    (run w args).files = w.files := by
  rw [run]
  split
  · rfl
  · rfl
  · rfl
  · rfl
  · next verbosity showsTracebacks command hread =>
    exact absurd ⟨verbosity, showsTracebacks, command, hread⟩ h

end CommandLine
end MarkupNaming
