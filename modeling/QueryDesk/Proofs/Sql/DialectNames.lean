import QueryDesk.Proofs.Sql.Generation
import QueryDesk.Proofs.Text.Folding

/-!
# Dialects given by name

Generation in a dialect given by name is generation in the dialect of that name, or in Hive if there
is none of that name, and the one difference it makes is a warning about an unknown name
(`generateNamed_warns`).  The dialect is found by the name's ASCII case, the warning is left out by
the lower form of all of Unicode: both agree because Hive, the dialect of the unknown names, is
written without a `k` (`Text.lower_eq_iff`).
-/

namespace QueryDesk

namespace Dialect

theorem map_asciiLower_name (d : Dialect) : d.name.toList.map Text.asciiLower = d.name.toList := by
  cases d <;> decide

theorem isAscii_name (d : Dialect) : Text.IsAscii d.name.toList := by
  cases d <;> decide

theorem mem_all (d : Dialect) : d ∈ all := by
  cases d <;> decide

theorem name_of_ofName? {s : String} {d : Dialect} (h : ofName? s = some d) : d.name = s := by
  simpa using List.find?_some h

theorem name_ne_of_ofName? {s : String} (h : ofName? s = none) (d : Dialect) : d.name ≠ s := by
  have hd := List.find?_eq_none.mp h d (mem_all d)
  simpa using hd

/-- A dialect is found by any text that differs from its name in ASCII case. -/
theorem ofAnyCase?_eq (s : String) :
    ofAnyCase? s = ofName? (String.ofList (s.toList.map Text.asciiLower)) := by
  unfold ofAnyCase? ofName?
  congr 1
  funext d
  rw [Text.sameIgnoringAsciiCase, map_asciiLower_name, Bool.eq_iff_iff, beq_iff_eq, beq_iff_eq,
    ← String.toList_inj, String.toList_ofList]

end Dialect

namespace Sql.Generator

/-! ## Names -/

/-- A name without blanks around it and with its letters `A` to `Z` in lower case. -/
def folded (name : String) : String :=
  String.ofList ((Text.trimmed name).toList.map Text.asciiLower)

/-- The name is that of a dialect, but for blanks around it and ASCII case. -/
def Known (name : String) : Prop := folded name ∈ ["hive", "spark", "clickhouse", "presto"]

instance (name : String) : Decidable (Known name) := inferInstanceAs (Decidable (_ ∈ _))

theorem known_iff {name : String} : Known name ↔ ∃ d : Dialect, d.name = folded name := by
  show folded name ∈ Dialect.all.map Dialect.name ↔ _
  simp only [List.mem_map, Dialect.mem_all, true_and]

/-- A name is that of the dialect it stands for, or it is unknown and stands for Hive. -/
theorem resolveDialect_cases (name : String) : (resolveDialect name).name = folded name ∨
    resolveDialect name = .hive ∧ ¬Known name := by
  have hresolve : resolveDialect name = (Dialect.ofName? (folded name)).getD .hive := by
    rw [resolveDialect, Dialect.ofAnyCase?_eq, folded]
  rw [hresolve]
  cases hname : Dialect.ofName? (folded name) with
  | some d => exact Or.inl (Dialect.name_of_ofName? hname)
  | none =>
    refine Or.inr ⟨rfl, fun hknown => ?_⟩
    obtain ⟨d, hd⟩ := known_iff.mp hknown
    exact Dialect.name_ne_of_ofName? hname d hd

theorem name_resolveDialect (name : String) :
    (resolveDialect name).name = if Known name then folded name else "hive" := by
  rcases resolveDialect_cases name with hname | ⟨hhive, hunknown⟩
  · rw [if_pos (known_iff.mpr ⟨_, hname⟩), hname]
  · rw [if_neg hunknown, hhive]
    rfl

/-- The lower form of a name is that of its dialect exactly if the name is known in ASCII case. -/
theorem name_resolveDialect_iff (name : String) :
    (resolveDialect name).name = Text.lower (Text.trimmed name) ↔ Known name := by
  rcases resolveDialect_cases name with hname | ⟨hhive, hunknown⟩
  · have hmap : (Text.trimmed name).toList.map Text.asciiLower =
        (resolveDialect name).name.toList := by
      rw [hname, folded, String.toList_ofList]
    rw [Text.lower_of_map_asciiLower (Dialect.isAscii_name _) hmap]
    exact iff_of_true rfl (known_iff.mpr ⟨_, hname⟩)
  · refine iff_of_false (fun hlower => hunknown ?_) hunknown
    have hlower : Text.lower (Text.trimmed name) = Dialect.hive.name := by rw [← hlower, hhive]
    have hk : 'k' ∉ Dialect.hive.name.toList := by decide
    rw [Known, folded, (Text.lower_eq_iff (Dialect.isAscii_name .hive) hk).mp hlower]
    decide

/-! ## Generation -/

theorem dialect_of_generate {g : Generator} {q : Query} {d : Dialect} {bundle : SqlBundle}
    (h : g.generate q d = .ok bundle) : bundle.dialect = d := by
  obtain ⟨s, -, -, rfl⟩ := generate_eq_ok_iff.mp h
  rfl

/-- A dialect given by name adds a warning to what generation hands out, if the name is unknown. -/
theorem generateNamed_eq (g : Generator) (q : Query) (name : String) :
    g.generateNamed q name = (g.generate q (resolveDialect name)).map fun bundle =>
      { bundle with
        warnings := (if Known name then [] else
          ["unsupported dialect '" ++ name ++ "', generated hive SQL"]) ++ bundle.warnings } := by
  have hiff := name_resolveDialect_iff name
  simp only [generateNamed, beq_iff_eq]
  cases g.generate q (resolveDialect name) with
  | error fault => rfl
  | ok bundle =>
    by_cases hknown : Known name
    · simp only [if_pos hknown, if_pos (hiff.mpr hknown)]
      rfl
    · simp only [if_neg hknown, if_neg (mt hiff.mp hknown)]
      rfl

/-- A dialect given by name only adds a warning.  The name is that of the dialect, blanks around it
and ASCII case apart, or an unknown one, which stands for Hive; generation fails as it does in that
dialect, and succeeds with the same statements, the dialect and the same warnings, after one about
an unknown name. -/
theorem generateNamed_warns (g : Generator) (q : Query) (name : String) :
    let dialect := resolveDialect name
    dialect.name = (if Known name then folded name else "hive") ∧
    (∀ fault, g.generateNamed q name = .error fault ↔ g.generate q dialect = .error fault) ∧
    ∀ bundle, g.generate q dialect = .ok bundle → bundle.dialect = dialect ∧
      g.generateNamed q name = .ok { bundle with
        warnings := (if Known name then [] else
          ["unsupported dialect '" ++ name ++ "', generated hive SQL"]) ++ bundle.warnings } := by
  intro dialect
  rw [generateNamed_eq]
  refine ⟨name_resolveDialect name, fun fault => ?_, fun bundle hbundle => ⟨?_, ?_⟩⟩
  · change Except.map _ (g.generate q dialect) = _ ↔ _
    cases g.generate q dialect with
    | error fault' => exact Iff.rfl
    | ok bundle => exact iff_of_false nofun nofun
  · exact dialect_of_generate hbundle
  · change Except.map _ (g.generate q dialect) = _
    rw [hbundle]
    rfl

/-- A query of the visits of a page. -/
def pageQuery : Query := .ofTable "visits" [⟨"page", .eq, .single (.text "home"), .and⟩] none none

/-- The Kelvin sign makes an unknown name, though its lower form is the letter `k`. -/
theorem generateNamed_warns_kelvin :
    Text.lower "SPAR\u212A" = "spark" ∧ ¬Known "SPAR\u212A" ∧ Known "\u3000SPARk\n" ∧
      (∃ b, (Generator.mk 5 Date.first).generate pageQuery .hive = .ok b ∧
        (Generator.mk 5 Date.first).generateNamed pageQuery "SPAR\u212A" = .ok { b with
          warnings := "unsupported dialect 'SPAR\u212A', generated hive SQL" :: b.warnings }) ∧
      ∃ b, (Generator.mk 5 Date.first).generate pageQuery .spark = .ok b ∧
        (Generator.mk 5 Date.first).generateNamed pageQuery "\u3000SPARk\n" = .ok b := by
  have hunknown : ¬Known "SPAR\u212A" := by decide +kernel
  have hknown : Known "\u3000SPARk\n" := by decide +kernel
  have hhive : resolveDialect "SPAR\u212A" = .hive := by decide +kernel
  have hspark : resolveDialect "\u3000SPARk\n" = .spark := by decide +kernel
  obtain ⟨b, hb⟩ := isOk_iff_exists.mp (show ((Generator.mk 5 Date.first).generate
    pageQuery .hive).isOk = true by decide +kernel)
  obtain ⟨b', hb'⟩ := isOk_iff_exists.mp (show ((Generator.mk 5 Date.first).generate
    pageQuery .spark).isOk = true by decide +kernel)
  obtain ⟨-, -, hwarned⟩ := generateNamed_warns (Generator.mk 5 Date.first) pageQuery "SPAR\u212A"
  obtain ⟨-, -, hplain⟩ := generateNamed_warns (Generator.mk 5 Date.first) pageQuery "\u3000SPARk\n"
  rw [hhive, if_neg hunknown] at hwarned
  rw [hspark, if_pos hknown] at hplain
  exact ⟨by decide +kernel, hunknown, hknown, ⟨b, hb, (hwarned b hb).2⟩, b', hb', (hplain b' hb').2⟩

end Sql.Generator

end QueryDesk
