import ComicScript.Proofs.Markdown.Entries
import ComicScript.Proofs.Markdown.Sections
import ComicScript.Proofs.Preview.Cuts

/-!
# Pages as HTML

A page that is printed as markdown and converted is what it would be if it were written as HTML at once: every printed line
is read as what it was printed as, and the empty lines keep the quotes of its panels apart.
-/

namespace ComicScript.Preview
set_option autoImplicit false
open Markdown (collapsed italic numberedTitle quoteLines quoteLines_eq joinSections entryOf panelSections panelSections_eq panelsFrom)

/-! ## Lines and quotes -/

/-- A text on one line that is neither blank nor quoted is converted to a heading or a paragraph. -/
theorem convert_line {s : String} (h : '\n' ∉ s.toList) (unquoted : Text.startsWith quoteLead s = false)
    (visible : Text.allBlank s = false) :
    convert s =
      match headings.find? fun (lead, _) => Text.startsWith lead s with
      | some (lead, tag) => element tag (Text.escapeHtml (Text.drop lead.length s)) ++ "\n"
      | none => paragraph s := by
  have only : Text.lines s = [s] := by
    simpa using Text.lines_append h ""
  rw [convert, only, List.foldl_cons, List.foldl_nil, Scan.feed, if_neg (by simp [unquoted]), Scan.finish]
  have plain : plainLine s = _ := if_neg (by simp [visible])
  exact String.empty_append.trans plain

/-- A line that begins as a heading is a heading. -/
theorem convert_heading {lead tag : String} (known : (lead, tag) ∈ headings) {s : String} (h : '\n' ∉ s.toList) :
    convert (lead ++ s) = element tag (Text.escapeHtml s) ++ "\n" := by
  have dropped (lead : String) : Text.drop lead.length (lead ++ s) = s := by
    simp [Text.drop, ← String.length_toList]
  simp only [headings, pageLead, List.mem_cons, Prod.mk.injEq, List.not_mem_nil, or_false] at known
  rcases known with ⟨rfl, rfl⟩ | ⟨rfl, rfl⟩ | ⟨rfl, rfl⟩
  all_goals
    rw [convert_line (Markdown.lineFeed_not_mem_append (by decide) h)
      (by simp [Text.startsWith, quoteLead, List.isPrefixOf]) (Text.allBlank_append_left (by decide) s)]
    simp [headings, pageLead, Text.startsWith, List.isPrefixOf, dropped]

/-- A line that begins with an asterisk is a paragraph. -/
theorem convert_star {s : String} (h : '\n' ∉ s.toList) : convert ("*" ++ s) = paragraph ("*" ++ s) := by
  rw [convert_line (Markdown.lineFeed_not_mem_append (by decide) h)
    (by simp [Text.startsWith, quoteLead, List.isPrefixOf]) (Text.allBlank_append_left (by decide) s)]
  simp [headings, pageLead, Text.startsWith, List.isPrefixOf]

/-- A quote is converted to one quote with all of its entries. -/
theorem convert_quote {entries : List String} (some_entries : entries ≠ [])
    (lines : ∀ s ∈ entries, '\n' ∉ s.toList) (visible : ∀ s ∈ entries, Text.allBlank s = false) :
    convert (quoteLead ++ "\n> ".intercalate entries) =
      element "blockquote" (String.join (entries.map fun entry => paragraph (Text.trim entry))) ++ "\n" := by
  obtain ⟨entry, rest, rfl⟩ := List.exists_cons_of_ne_nil some_entries
  have all : (entry :: rest).filter (!Text.allBlank ·) = entry :: rest :=
    List.filter_eq_self.2 fun s member => by simp [visible s member]
  have clean : ∀ line ∈ (entry :: rest).map (quoteLead ++ ·), '\n' ∉ line.toList :=
    List.forall_mem_map.2 fun s member => Markdown.lineFeed_not_mem_append (by decide) (lines s member)
  have quoted : ∀ line ∈ (entry :: rest).map (quoteLead ++ ·), Text.startsWith quoteLead line = true :=
    List.forall_mem_map.2 fun s _ => by simp [Text.startsWith]
  have dropped : ((entry :: rest).map (quoteLead ++ ·)).map (Text.drop quoteLead.length) = entry :: rest := by
    simp [Text.drop, ← String.length_toList, Function.comp_def]
  have printed : quoteLead ++ "\n> ".intercalate (entry :: rest) = Text.unlines ((entry :: rest).map (quoteLead ++ ·)) :=
    Markdown.unlines_quote entry rest
  have filled : (entry :: rest).map (quoteLead ++ ·) ≠ [] := List.cons_ne_nil _ _
  rw [printed, convert_unlines filled clean, convertLines_quoted filled quoted, dropped, blockquote, all]

/-! ## Sections -/

/-- Sections after the first are converted behind an empty line each. -/
def sectionsHtml (sections : List String) : String :=
  String.join (sections.map fun s => "\n" ++ convert s)

theorem sectionsHtml_append (a b : List String) : sectionsHtml (a ++ b) = sectionsHtml a ++ sectionsHtml b := by
  simp [sectionsHtml, String.join_append]

theorem convert_joinSections (s : String) (rest : List String) :
    convert (joinSections (s :: rest)) = convert s ++ sectionsHtml rest := by
  induction rest generalizing s with
  | nil => simp [sectionsHtml]
  | cons t rest ih =>
    rw [Markdown.joinSections_cons_cons, convert_append_blank, ih]
    simp [sectionsHtml, String.append_assoc]

/-! ## The HTML of a page -/

/-- The paragraph of a field behind an empty line, unless the field is blank. -/
def fieldHtml (field : Option String) (write : String → String) : String :=
  if (collapsed field).isEmpty then "" else "\n" ++ paragraph (write (collapsed field))

/-- The quote of a panel behind an empty line, unless nothing is said and there are no captions. -/
def quoteHtml (p : Panel) (lines : List Dialogue) : String :=
  if (collapsed p.caption).isEmpty && lines.isEmpty && (collapsed p.endCaption).isEmpty then ""
  else
    "\n" ++ (element "blockquote" (String.join ((quoteLines p lines).map fun entry => paragraph (Text.trim entry))) ++ "\n")

/-- A panel behind an empty line: its heading, its description, its effects and its quote. -/
def panelHtml (number : Nat) (p : Panel) (lines : List Dialogue) : String :=
  "\n" ++ (element "h3" (Text.escapeHtml (numberedTitle "Panel" number p.name)) ++ "\n" ++ fieldHtml p.desc italic ++
    fieldHtml p.fx (fun s => "**FX:** " ++ s) ++ quoteHtml p lines)

/-- A page: its heading and its panels, numbered from one. -/
def pageHtml (number : Int) (name : Option String) (panels : List (Panel × List Dialogue)) : String :=
  element "h2" (Text.escapeHtml (numberedTitle "Page" number name)) ++ "\n" ++
    String.join (panels.mapIdx fun n panel => panelHtml (n + 1) panel.1 panel.2)

theorem sectionsHtml_entryOf (field : Option String) {write : String → String}
    (begins : ∀ s, '\n' ∉ s.toList → ∃ rest, write s = "*" ++ rest ∧ '\n' ∉ rest.toList) :
    sectionsHtml (entryOf field write) = fieldHtml field write := by
  obtain ⟨rest, same, line⟩ := begins _ (Markdown.lineFeed_not_mem_collapsed field)
  unfold entryOf fieldHtml
  split
  · rfl
  · simp [sectionsHtml, same, convert_star line]

theorem entryOf_eq_nil_iff (field : Option String) (make : String → String) :
    entryOf field make = [] ↔ (collapsed field).isEmpty = true := by
  unfold entryOf
  split
  · rename_i blank
    exact ⟨fun _ => blank, fun _ => rfl⟩
  · rename_i filled
    exact ⟨fun none => (List.cons_ne_nil _ _ none).elim, fun blank => absurd blank filled⟩

theorem sectionsHtml_quote {p : Panel} {lines : List Dialogue}
    (names : ∀ d ∈ lines, '\n' ∉ d.character.toList ∧ '\n' ∉ d.type.toList) :
    sectionsHtml (Markdown.quote (quoteLines p lines)) = quoteHtml p lines := by
  have empty : (quoteLines p lines).isEmpty =
      ((collapsed p.caption).isEmpty && lines.isEmpty && (collapsed p.endCaption).isEmpty) := by
    rw [Bool.eq_iff_iff]
    simp only [quoteLines_eq, List.isEmpty_iff, List.append_eq_nil_iff, List.map_eq_nil_iff, entryOf_eq_nil_iff,
      Bool.and_eq_true]
  unfold Markdown.quote quoteHtml
  rw [← empty]
  split
  · rfl
  · rename_i filled
    have some_entries : quoteLines p lines ≠ [] := fun none => filled (List.isEmpty_iff.2 none)
    have converted := convert_quote some_entries (fun _ member => Markdown.lineFeed_not_mem_quoteLines names member)
      (fun _ member => Markdown.allBlank_of_mem_quoteLines member)
    rw [← converted]
    simp [sectionsHtml, quoteLead]

/-- A panel with its lines of dialogue. -/
def filledPanel (panel : Panel × List Dialogue) : Slot Panel :=
  .filled { panel.1 with dialogue := .filled (panel.2.map .filled) }

theorem panel_filledPanel (number : Int) (panel : Panel × List Dialogue) :
    Markdown.panel number (filledPanel panel) = joinSections (panelSections number panel.1 panel.2) := by
  have all : (panel.2.map Slot.filled).mapM Slot.part? = some panel.2 := by
    induction panel.2 with
    | nil => rfl
    | cons d rest ih => simp [List.mapM_cons, Slot.part?, ih]
  have filled : Markdown.dialogue? { panel.1 with dialogue := .filled (panel.2.map .filled) } = some panel.2 := all
  rw [filledPanel, Markdown.panel, filled]
  rfl

/-- A printed panel is converted to its HTML. -/
theorem convert_panel (number : Nat) {panel : Panel × List Dialogue}
    (names : ∀ d ∈ panel.2, '\n' ∉ d.character.toList ∧ '\n' ∉ d.type.toList) :
    "\n" ++ convert (Markdown.panel number (filledPanel panel)) = panelHtml number panel.1 panel.2 := by
  have title := Markdown.lineFeed_not_mem_numberedTitle (by decide : '\n' ∉ "Panel".toList) number panel.1.name
  have desc : sectionsHtml (entryOf panel.1.desc italic) = fieldHtml panel.1.desc italic := by
    apply sectionsHtml_entryOf
    intro s line
    exact ⟨s ++ "*", String.append_assoc, Markdown.lineFeed_not_mem_append line (by decide)⟩
  have fx : sectionsHtml (entryOf panel.1.fx fun s => "**FX:** " ++ s) =
      fieldHtml panel.1.fx fun s => "**FX:** " ++ s := by
    apply sectionsHtml_entryOf
    intro s line
    exact ⟨"*FX:** " ++ s, by simp [← String.toList_inj], Markdown.lineFeed_not_mem_append (by decide) line⟩
  rw [panel_filledPanel, panelSections_eq, List.append_assoc, List.cons_append, convert_joinSections, sectionsHtml_append,
    sectionsHtml_append, convert_heading (by decide : ("### ", "h3") ∈ headings) title, desc, fx,
    sectionsHtml_quote names, panelHtml]
  simp only [String.append_assoc]

theorem sectionsHtml_panels (number : Nat) {panels : List (Panel × List Dialogue)}
    (names : ∀ panel ∈ panels, ∀ d ∈ panel.2, '\n' ∉ d.character.toList ∧ '\n' ∉ d.type.toList) :
    sectionsHtml (panelsFrom number (panels.map filledPanel)) =
      String.join (panels.mapIdx fun n panel => panelHtml (number + n) panel.1 panel.2) := by
  induction panels generalizing number with
  | nil => rfl
  | cons panel rest ih =>
    have here := convert_panel number (names panel List.mem_cons_self)
    have others := ih (number + 1) fun other member => names other (List.mem_cons_of_mem _ member)
    have later : (fun (n : Nat) (other : Panel × List Dialogue) => panelHtml (number + (n + 1)) other.1 other.2) =
        fun n other => panelHtml (number + 1 + n) other.1 other.2 := by
      funext n other
      rw [Nat.add_assoc, Nat.add_comm 1]
    rw [List.map_cons, panelsFrom, sectionsHtml, List.map_cons, String.join_cons, here, List.mapIdx_cons,
      String.join_cons, later, ← others]
    rfl

/-- A page that is printed and then converted is its HTML. No line of dialogue is lost, joined with another, moved to the
quote of another panel or taken for a heading, if no speaker and no type has a line feed. -/
theorem convert_page (number : Int) (p : Page) (panels : List (Panel × List Dialogue))
    (names : ∀ panel ∈ panels, ∀ d ∈ panel.2, '\n' ∉ d.character.toList ∧ '\n' ∉ d.type.toList) :
    convert (Markdown.page number (.filled { p with panels := .filled (panels.map filledPanel) })) =
      pageHtml number p.name panels := by
  have title := Markdown.lineFeed_not_mem_numberedTitle (by decide : '\n' ∉ "Page".toList) number p.name
  have printed : Markdown.page number (.filled { p with panels := .filled (panels.map filledPanel) }) =
      joinSections ((pageLead ++ numberedTitle "Page" number p.name) :: panelsFrom 1 (panels.map filledPanel)) := rfl
  rw [printed, convert_joinSections, convert_heading (by decide : (pageLead, "h2") ∈ headings) title,
    sectionsHtml_panels 1 names, pageHtml]
  simp only [Nat.add_comm 1]

/-- A page whose only line of dialogue has a line feed in its text, which could begin a heading. -/
theorem convert_page_spoken :
    let p : Page := ⟨some "One", .null, .filled []⟩
    let panel : Panel := ⟨none, some "> A roof", none, some "Night", none, .filled []⟩
    let said : Dialogue := ⟨"Ann", "Hi\n# there", "whisper", false⟩
    (∀ q ∈ [(panel, [said])], ∀ d ∈ q.2, '\n' ∉ d.character.toList ∧ '\n' ∉ d.type.toList) ∧
      convert (Markdown.page 1 (.filled { p with panels := .filled ([(panel, [said])].map filledPanel) })) =
        pageHtml 1 p.name [(panel, [said])] := by
  intro p panel said
  have names : ∀ q ∈ [(panel, [said])], ∀ d ∈ q.2, '\n' ∉ d.character.toList ∧ '\n' ∉ d.type.toList := by decide
  exact ⟨names, convert_page 1 p [(panel, [said])] names⟩

end ComicScript.Preview
