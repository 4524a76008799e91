import SceneScript.Proofs.Accounting
import SceneScript.Proofs.Books

/-!
What diagnostics quote. Every diagnostic of a parse is about a statement of its text: it quotes the statement
and marks a stretch of it, by offsets in the statement and by columns of the physical line. The two say the
same, since a statement stands on its line from its column on.
-/

namespace SceneScript

/-! ### Quotations -/

/-- The diagnostic quotes the statement and marks a stretch of it, and on the physical line that it names the
    columns mark the same characters. -/
structure Diagnostic.Quotes (source : String) (s : Statement) (d : Diagnostic) : Prop where
  sourceLine : d.sourceLine = some s.text
  start : d.span.start = ⟨s.line, s.column + d.span.start.offset, d.span.start.offset, s.filename⟩
  stop : d.span.stop = ⟨s.line, s.column + d.span.stop.offset, d.span.stop.offset, s.filename⟩
  nonneg : 0 ≤ d.span.start.offset
  ordered : d.span.start.offset ≤ d.span.stop.offset
  bounded : d.span.stop.offset ≤ s.text.length
  positive : 1 ≤ d.line ∧ 1 ≤ d.span.start.column
  marked : ∃ line, (Text.splitAt '\n' source.toList)[(d.line - 1).toNat]? = some line ∧
    Text.slice (String.ofList line) (d.span.start.column - 1).toNat (d.span.stop.column - 1).toNat =
      Text.slice s.text d.span.start.offset.toNat d.span.stop.offset.toNat

theorem Diagnostic.PointsInto.quotes {source : String} {filename : Option String} {s : Statement} {d : Diagnostic}
    (h : d.PointsInto s) (hs : s ∈ Statement.ofSource source filename) : d.Quotes source s := by
  obtain ⟨start, stop, hle, hstop, hspan⟩ := h.span
  obtain ⟨i, line, hget, hline, -, hstands⟩ := Statement.exists_line_of_mem_ofLines hs
  have hnumber : d.line = (1 + i : Nat) := by rw [h.line_eq, hline]
  have hcolumn : 1 ≤ s.column := by
    obtain ⟨before, -, -, hcolumn⟩ := hstands
    omega
  refine ⟨h.sourceLine, ?_, ?_, ?_, ?_, ?_, ⟨by omega, ?_⟩, line, ?_, ?_⟩
  · rw [hspan]
    rfl
  · rw [hspan]
    rfl
  · rw [hspan]
    exact Int.natCast_nonneg start
  · rw [hspan]
    exact Int.ofNat_le.mpr hle
  · rw [hspan]
    exact Int.ofNat_le.mpr hstop
  · rw [hspan]
    simp only [Statement.location]
    omega
  · have hplace : (d.line - 1).toNat = i := by omega
    rw [hplace, hget]
  · rw [hspan]
    exact hstands.slice_eq hstop

/-! ### The diagnostics of a parse -/

/-- A target that is not found is reported at the statement that drew the entity. -/
theorem Context.Booked.pointsInto_lost {c : Context} {statements : List Statement} (h : c.Booked statements) :
    ∀ d ∈ c.lost, ∃ s ∈ statements, d.PointsInto s := by
  intro d hd
  obtain ⟨e, he, rfl⟩ := List.mem_map.mp hd
  obtain ⟨s, hs, hsource⟩ := h.exists_source (List.mem_filter.mp he).1
  refine ⟨s, hs, ?_⟩
  simp only [Resolution.unresolved, hsource]
  exact ⟨rfl, s.covers_span⟩

section Parses
variable {v : Vocabulary} {strict : Bool} {source : String} {filename : Option String} {r : Result}

theorem pointsInto_of_readSource (h : readSource v strict source filename = .ok r) :
    ∀ d ∈ r.diagnostics, ∃ s ∈ Statement.ofSource source filename, d.PointsInto s := by
  intro d hd
  obtain ⟨c, hc, -, hdiagnostics⟩ := diagnostics_readSource h
  obtain ⟨hstatements, hbalances, haccounts⟩ := Context.accounts_of_run hc
  rw [hdiagnostics] at hd
  rcases List.mem_append.mp hd with hd | hd
  · rw [haccounts, List.nil_append] at hd
    obtain ⟨a, ha, hd⟩ := List.mem_flatMap.mp hd
    refine ⟨a.statement, ?_, (hbalances a ha).points d hd⟩
    rw [← hstatements]
    exact List.mem_map_of_mem ha
  · split at hd
    · obtain ⟨hbooked, -⟩ := (Context.Booked.start v strict).run hc
      exact hbooked.pointsInto_lost d hd
    · cases hd

/-- Diagnostics point into the source: each of a parse quotes one of its statements, and marks a stretch of it
    on its line. -/
theorem quotes_of_readSource (h : readSource v strict source filename = .ok r) :
    ∀ d ∈ r.diagnostics, ∃ s ∈ Statement.ofSource source filename, d.Quotes source s := by
  intro d hd
  obtain ⟨s, hs, hpoints⟩ := pointsInto_of_readSource h d hd
  exact ⟨s, hs, hpoints.quotes hs⟩

/-- An unknown place, an unknown entity and the end of a statement are quoted from indented lines. -/
theorem quotes_of_readSource_bundled :
    let source := "  DRAW MAN AT NOWHERE // unknown\r\n\tUPDATE GHOST WITH HAPPY\n\n   DRAW TREE NEAR"
    ∃ r, readSource .bundled false source none = .ok r ∧ r.diagnostics.length = 3 ∧
      ∀ d ∈ r.diagnostics, ∃ s ∈ Statement.ofSource source none, d.Quotes source s := by
  intro source
  have hparse : (readSource .bundled false source none).toOption.map (·.diagnostics.length) = some 3 := by
    decide +kernel
  obtain ⟨r, hr, hlength⟩ := toOption_map_eq_some.mp hparse
  exact ⟨r, hr, hlength, quotes_of_readSource hr⟩

end Parses
end SceneScript
