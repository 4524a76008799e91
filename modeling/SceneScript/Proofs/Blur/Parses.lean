import SceneScript.Proofs.Blur.Runs

/-!
Parses under a blur. What names refer to is told by ids, keywords and subtypes, and a target is sought in
upper case; so positions settle alike, and two texts whose statements are not told apart have results that
are not told apart.
-/

namespace SceneScript
namespace Blur

variable (b : Blur)

/-! ### Names -/

theorem names_entities (entities : List Entity) :
    NameTable.ofEntities (entities.map b.entity) = NameTable.ofEntities entities := by
  have hids : NameTable.idNames (entities.map b.entity) = NameTable.idNames entities := by
    simp only [NameTable.idNames, List.zipIdx_map, List.map_map]
    rfl
  have haliases : NameTable.aliasNames (entities.map b.entity) = NameTable.aliasNames entities := by
    simp only [NameTable.aliasNames, List.findIdx?_map]
    rfl
  have hkinds : NameTable.kindNames (entities.map b.entity) = NameTable.kindNames entities := by
    simp only [NameTable.kindNames, List.zipIdx_map, List.flatMap_map]
    rfl
  rw [NameTable.ofEntities, NameTable.ofEntities, hids, haliases, hkinds]

theorem find?_text (table : NameTable) (target : String) : table.find? (b.text target) = table.find? target := by
  rw [NameTable.find?, NameTable.find?, NameTable.candidates, NameTable.candidates, trim_text, upper_text]

/-! ### Settling -/

/-- Resolutions that are not told apart. -/
structure SettledAlike (r r' : Resolution) : Prop where
  entities : r.entities.map b.entity = r'.entities.map b.entity
  found : r.found = r'.found
  warnings : r.warnings.map b.diagnostic = r'.warnings.map b.diagnostic

variable {b}

theorem target_of_position {p p' : Position} (h : b.position p = b.position p') (other : String) :
    b.text (p.relativeTo.getD other) = b.text (p'.relativeTo.getD other) := by
  have hto : p.relativeTo.map b.text = p'.relativeTo.map b.text := congrArg Position.relativeTo h
  cases hp : p.relativeTo with
  | none =>
    rw [hp] at hto
    rw [Option.map_eq_none_iff.mp hto.symm]
  | some target =>
    rw [hp] at hto
    obtain ⟨target', heq, hseen⟩ := Option.map_eq_some_iff.mp hto.symm
    rw [heq]
    exact hseen.symm

theorem settleAt_of_position {p p' : Position} (h : b.position p = b.position p') (x y z : Number) :
    p.settleAt x y z = p'.settleAt x y z := by
  have hseen : (b.position p).settleAt x y z = (b.position p').settleAt x y z := by rw [h]
  exact hseen

theorem isResolved_position (p : Position) : (b.position p).isResolved = p.isResolved := by
  simp [Position.isResolved, position]

section
variable {table : NameTable} {sources sources' : List (String × Statement)}
  (hsources : sources.map (fun p => (p.1, b.origin p.2)) = sources'.map fun p => (p.1, b.origin p.2))
include hsources

theorem unresolved_alike {e e' : Entity} (he : b.entity e = b.entity e') :
    b.diagnostic (Resolution.unresolved sources e) = b.diagnostic (Resolution.unresolved sources' e') := by
  obtain ⟨hid, -, -, -, hposition, -⟩ := Entity.mk.inj he
  have horigin : (Assoc.get? sources e.id).map b.origin = (Assoc.get? sources' e'.id).map b.origin := by
    rw [← Assoc.get?_map, ← Assoc.get?_map, hsources, hid]
  have hmessage : b.text (Warning.unresolvedTarget e.id (e.position.relativeTo.getD "None")).message =
      b.text (Warning.unresolvedTarget e'.id (e'.position.relativeTo.getD "None")).message := by
    have hquoted : ∀ {target target' : String} (front back last : String), b.text target = b.text target' →
        b.text (front ++ target ++ back ++ last) = b.text (front ++ target' ++ back ++ last) := by
      intro target target' front back last htarget
      rw [text_append, text_append, text_append, htarget, ← text_append, ← text_append, ← text_append]
    rw [hid]
    exact hquoted _ _ _ (target_of_position hposition "None")
  unfold Resolution.unresolved
  cases hs : Assoc.get? sources e.id with
  | none =>
    rw [hs] at horigin
    rw [Option.map_eq_none_iff.mp horigin.symm]
    simp only [diagnostic, Warning.diagnostic, hmessage]
    rfl
  | some s =>
    rw [hs] at horigin
    obtain ⟨s', hs', hsame⟩ := Option.map_eq_some_iff.mp horigin.symm
    obtain ⟨hspan, htext⟩ := Prod.mk.inj hsame
    rw [hs']
    simp only [diagnostic, Warning.diagnostic, hmessage, Option.map_some, hspan, htext]
    rfl

theorem settle_alike {r r' r₁ : Resolution} (h : b.SettledAlike r r') {i : Nat}
    (hsettle : Resolution.settle table sources r i = .ok r₁) :
    ∃ r₁', Resolution.settle table sources' r' i = .ok r₁' ∧ b.SettledAlike r₁ r₁' := by
  have hentity : ∀ i : Nat, (r.entities[i]?).map b.entity = (r'.entities[i]?).map b.entity := by
    intro i
    rw [← List.getElem?_map, ← List.getElem?_map, h.entities]
  have hset : ∀ {e e' : Entity}, b.entity e = b.entity e' →
      (r.entities.set i e).map b.entity = (r'.entities.set i e').map b.entity := by
    intro e e' he
    rw [List.map_set, List.map_set, h.entities, he]
  have hi := hentity i
  unfold Resolution.settle at hsettle ⊢
  split at hsettle
  · rename_i hnone
    cases hsettle
    rw [hnone] at hi
    rw [Option.map_eq_none_iff.mp hi.symm]
    exact ⟨r', rfl, h⟩
  · rename_i e he
    rw [he] at hi
    obtain ⟨e', he', hseen⟩ := Option.map_eq_some_iff.mp hi.symm
    obtain ⟨hid, hcategory, hsubtype, hattributes, hposition, hkeyword⟩ := Entity.mk.inj hseen
    have hresolved : e'.position.isResolved = e.position.isResolved := by
      rw [← isResolved_position (b := b), hposition, isResolved_position]
    have htarget : table.find? (e'.position.relativeTo.getD "") = table.find? (e.position.relativeTo.getD "") := by
      rw [← b.find?_text, target_of_position hposition, find?_text]
    rw [he']
    simp only [hresolved, htarget]
    split at hsettle
    · rename_i hdone
      cases hsettle
      rw [if_pos hdone]
      exact ⟨r', rfl, h⟩
    · rename_i hpending
      rw [if_neg hpending]
      have hfound : ((table.find? (e.position.relativeTo.getD "")).bind fun j => r.entities[j]?).map b.entity =
          ((table.find? (e.position.relativeTo.getD "")).bind fun j => r'.entities[j]?).map b.entity := by
        cases table.find? (e.position.relativeTo.getD "") with
        | none => rfl
        | some j => exact hentity j
      have hrelative : (b.position e.position).relative = (b.position e'.position).relative := by rw [hposition]
      have hseen' : ∀ {p p' : Position}, p = p' →
          b.entity { e with position := p } = b.entity { e' with position := p' } := by
        rintro p _ rfl
        rw [entity, entity, hid, hcategory, hsubtype, hattributes, hkeyword]
      have hsettled := settleAt_of_position hposition
      split at hsettle
      · rename_i hlost
        cases hsettle
        rw [hlost] at hfound
        rw [Option.map_eq_none_iff.mp hfound.symm]
        refine ⟨_, rfl, hset (hseen' (hsettled _ _ _).symm), h.found, ?_⟩
        simp only [List.map_append, List.map_cons, List.map_nil, h.warnings, unresolved_alike hsources hseen.symm]
      · rename_i target htarget'
        rw [htarget'] at hfound
        obtain ⟨target', hj, htargets⟩ := Option.map_eq_some_iff.mp hfound.symm
        rw [hj]
        split at hsettle
        · cases hsettle
        · rename_i relation hrelation
          cases hsettle
          have hrelation' : e'.position.relative = some relation := hrelative.symm.trans hrelation
          have hbeside : Resolution.beside target.position e.position relation =
              Resolution.beside target'.position e'.position relation := by
            have hat : (b.position target.position).x = (b.position target'.position).x ∧
                (b.position target.position).y = (b.position target'.position).y ∧
                  (b.position target.position).z = (b.position target'.position).z := by
              have htargets' : b.position target'.position = b.position target.position :=
                congrArg Entity.position htargets
              rw [htargets']
              exact ⟨rfl, rfl, rfl⟩
            obtain ⟨hx, hy, hz⟩ : target.position.x = target'.position.x ∧ target.position.y = target'.position.y ∧
              target.position.z = target'.position.z := hat
            simp only [Resolution.beside, hx, hy, hz, hsettled]
          rw [hrelation']
          exact ⟨_, rfl, hset (hseen' hbeside), by simp only [h.found], h.warnings⟩

theorem settleAll_alike {r r' r₁ : Resolution} (h : b.SettledAlike r r') {places : List Nat}
    (hsettle : Resolution.settleAll table sources places r = (r₁, none)) :
    ∃ r₁', Resolution.settleAll table sources' places r' = (r₁', none) ∧ b.SettledAlike r₁ r₁' := by
  induction places generalizing r r' with
  | nil =>
    cases hsettle
    exact ⟨r', rfl, h⟩
  | cons i places ih =>
    unfold Resolution.settleAll at hsettle ⊢
    split at hsettle
    · rename_i r₂ hr₂
      obtain ⟨r₂', hr₂', halike⟩ := settle_alike hsources h hr₂
      rw [hr₂']
      exact ih halike hsettle
    · cases hsettle

end

theorem anyError_map (ds : List Diagnostic) : Diagnostic.anyError (ds.map b.diagnostic) = Diagnostic.anyError ds := by
  rw [Diagnostic.anyError, Diagnostic.anyError, List.any_map]
  rfl

theorem Alike.anyError {c d : Context} (h : b.Alike c d) :
    Diagnostic.anyError c.diagnostics = Diagnostic.anyError d.diagnostics := by
  rw [← anyError_map (b := b), h.diagnostics, anyError_map]

theorem Alike.resolve {c c' d : Context} {n : Nat} (h : b.Alike c d) (hresolve : c.resolve = .ok (c', n)) :
    ∃ d', d.resolve = .ok (d', n) ∧ b.Alike c' d' := by
  rcases Context.resolve_eq_ok.mp hresolve with ⟨herror, rfl, rfl⟩ | ⟨hnone, settled, hsettled, rfl, rfl⟩
  · rw [h.anyError] at herror
    exact ⟨d, Context.resolve_eq_ok.mpr (Or.inl ⟨herror, rfl, rfl⟩), h⟩
  · have hstart : b.SettledAlike { entities := c.scene.entities } { entities := d.scene.entities } :=
      ⟨h.entities, rfl, rfl⟩
    have htable : NameTable.ofEntities c.scene.entities = NameTable.ofEntities d.scene.entities := by
      rw [← b.names_entities, h.entities, names_entities]
    have hlength : c.scene.entities.length = d.scene.entities.length := by
      have hlengths := congrArg List.length h.entities
      rwa [List.length_map, List.length_map] at hlengths
    rw [Resolution.ofEntities, htable, hlength] at hsettled
    obtain ⟨settled', hsettled', halike⟩ := settleAll_alike h.sources hstart hsettled
    rw [h.anyError] at hnone
    refine ⟨d.settleBy settled', Context.resolve_eq_ok.mpr ?_, ?_⟩
    · exact Or.inr ⟨hnone, settled', hsettled', rfl, halike.found.symm⟩
    exact { h with
      entities := halike.entities
      diagnostics := by simp only [Context.settleBy, List.map_append, h.diagnostics, halike.warnings] }

/-! ### Results -/

/-- Results that are not told apart. Their events are not compared. -/
structure ResultsAlike (b : Blur) (r r' : Result) : Prop where
  entities : r.scene.entities.map b.entity = r'.scene.entities.map b.entity
  environment : r.scene.environment = r'.scene.environment
  metadata : r.scene.metadata = r'.scene.metadata
  frozen : r.scene.frozen = r'.scene.frozen
  diagnostics : r.diagnostics.map b.diagnostic = r'.diagnostics.map b.diagnostic
  extensions : r.extensions = r'.extensions

theorem Alike.result {c d : Context} (h : b.Alike c d) : b.ResultsAlike (.ofContext c) (.ofContext d) :=
  ⟨h.entities, h.environment, h.metadata, rfl, h.diagnostics, h.extensions⟩

theorem ResultsAlike.success {r r' : Result} (h : b.ResultsAlike r r') : r.success = r'.success := by
  rw [Result.success, Result.success, ← anyError_map (b := b), h.diagnostics, anyError_map]

/-- Texts whose statements are not told apart have results that are not told apart. -/
theorem readSource_alike {v : Vocabulary} {strict : Bool} {source source' : String} {filename filename' : Option String}
    {r : Result} (hs : List.Forall₂ (fun s s' => b.Matches s s' ∧ s.reference? = s'.reference?)
      (Statement.ofSource source filename) (Statement.ofSource source' filename'))
    (h : readSource v strict source filename = .ok r) :
    ∃ r', readSource v strict source' filename' = .ok r' ∧ b.ResultsAlike r r' := by
  obtain ⟨c, ⟨d, n⟩, hc, hd, rfl⟩ := readSource_eq_ok.mp h
  obtain ⟨c', hc', halike⟩ := (Alike.refl (b := b) { vocabulary := v, strict }).run hs hc
  obtain ⟨d', hd', halike'⟩ := halike.resolve hd
  exact ⟨.ofContext d', readSource_eq_ok.mpr ⟨c', (d', n), hc', hd', rfl⟩, halike'.result⟩

end Blur
end SceneScript
