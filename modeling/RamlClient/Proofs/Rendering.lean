import Mathlib.Data.String.Basic
import RamlClient.Proofs.ClientDraft
import RamlClient.Proofs.ImportSets
import RamlClient.Proofs.PackageClause
/-!
# What a rendered file holds

A rendered file is a row of blocks with an empty line between two of them: the header, the package
clause, the imports if there are any, and each definition once. The imports are sorted, and none is
repeated. The runtime of a client has the clause of its package in the place of its own.
-/

namespace RamlClient

namespace Text

/-! ### Rows of texts -/

/-- White space at the end of a text does not count if the text is trimmed. -/
theorem trimRight_append {blanks : String} (h : ∀ c ∈ blanks.toList, isBlank c = true)
    (s : String) : trimRight (s ++ blanks) = trimRight s := by
  have hblanks : blanks.toList.reverse.dropWhile isBlank = [] := by
    rw [List.dropWhile_eq_nil_iff]
    exact fun c hc => h c (List.mem_reverse.1 hc)
  rw [trimRight, trimRight, dropRightWhile, dropRightWhile, String.toList_append,
    List.reverse_append, List.dropWhile_append, hblanks]
  rfl

/-- Joined texts with the separator once more are the texts with the separator after each of
them. -/
theorem toList_join_append {separator : String} {ss : List String} (h : ss ≠ []) :
    (join separator ss ++ separator).toList = ss.flatMap fun s => s.toList ++ separator.toList := by
  have hrest (ss : List String) :
    (ss.flatMap fun s => separator.toList ++ s.toList) ++ separator.toList =
      separator.toList ++ ss.flatMap fun s => s.toList ++ separator.toList := by
    induction ss with
    | nil => simp
    | cons s ss ih => simp [ih]
  cases ss with
  | nil => exact absurd rfl h
  | cons s ss =>
    rw [String.toList_append, Client.toList_join_cons, List.append_assoc, hrest, List.flatMap_cons,
      List.append_assoc]

end Text

namespace Go

/-! ### Blocks -/

/-- The text of a definition. -/
def Definition.text : Definition → String
  | .typeDef d => d.text
  | .struct s => s.text
  | .func g => g.text

/-- The block of the imports, if there are any. -/
def importBlocks (imports : List String) : List String :=
  if imports = [] then []
  else [Text.join "\n"
    (["import ("] ++ imports.map (fun path => "\t\x22" ++ path ++ "\x22") ++ [")"])]

/-- The blocks of a file in a package. -/
def File.blocks (f : File) (package : String) : List String :=
  [generatedHeader, "package " ++ package] ++ importBlocks f.imports ++
    f.definitions.map Definition.text

/-- The lines of the imports are their block and an empty line. -/
theorem flatMap_importLines (imports : List String) :
    ((importLines imports).flatMap fun s => s.toList ++ "\n".toList) =
      (importBlocks imports).flatMap fun s => s.toList ++ "\n\n".toList := by
  rw [importLines, importBlocks]
  cases imports with
  | nil => rfl
  | cons path rest =>
    have hlines :
        ["import ("] ++ (path :: rest).map (fun path => "\t\x22" ++ path ++ "\x22") ++ [")", ""] =
          (["import ("] ++ (path :: rest).map (fun path => "\t\x22" ++ path ++ "\x22") ++ [")"]) ++
            [""] := by
      rw [List.append_assoc _ [")"]]
      rfl
    rw [List.isEmpty_cons, if_neg Bool.false_ne_true, if_neg (List.cons_ne_nil _ _), hlines,
      List.flatMap_append, ← Text.toList_join_append (by simp), List.flatMap_singleton,
      List.flatMap_singleton, String.toList_append, List.append_assoc]
    rfl

/-- The text of a file is its blocks with an empty line between two of them, and one line feed at
the end. -/
theorem File.text_eq (f : File) (package : String) :
    f.text package = Text.trimRight (Text.join "\n\n" (f.blocks package)) ++ "\n" := by
  have hblank : ∀ c ∈ "\n\n".toList, Text.isBlank c = true := List.all_eq_true.1 (by decide)
  have hblank' : ∀ c ∈ "\n".toList, Text.isBlank c = true := List.all_eq_true.1 (by decide)
  rw [File.text, ← Text.trimRight_append hblank',
    ← Text.trimRight_append hblank (Text.join "\n\n" _)]
  congr 2
  rw [← String.toList_inj, Text.toList_join_append (by simp),
    Text.toList_join_append (by simp [blocks])]
  simp only [blocks, definitions, List.flatMap_append, List.flatMap_cons, List.flatMap_nil,
    List.flatMap_map, List.flatMap_assoc, List.append_assoc, flatMap_importLines]
  rfl

/-! ### Sorted imports -/

/-- An import that is inserted keeps the order. -/
theorem pairwise_insertImport {path : String} {paths : List String} (h : paths.Pairwise (· < ·)) :
    (insertImport path paths).Pairwise (· < ·) := by
  induction paths with
  | nil => exact List.pairwise_singleton _ _
  | cons p r ih =>
    obtain ⟨hp, hr⟩ := List.pairwise_cons.1 h
    rw [insertImport]
    split
    · rename_i hless
      refine List.pairwise_cons.2 ⟨List.forall_mem_cons.2 ⟨hless, fun q hq => ?_⟩, h⟩
      exact lt_trans hless (hp q hq)
    · rename_i hless
      split
      · exact h
      · rename_i hne
        refine List.pairwise_cons.2 ⟨fun q hq => ?_, ih hr⟩
        rcases mem_insertImport.1 hq with rfl | hq
        · exact lt_of_le_of_ne (not_lt.1 hless) (Ne.symm hne)
        · exact hp q hq

/-- Imports that are added to sorted ones are sorted with them. -/
theorem File.pairwise_addImports {f : File} (h : f.imports.Pairwise (· < ·)) (paths : List String) :
    (f.addImports paths).imports.Pairwise (· < ·) := by
  rw [addImports]
  dsimp only
  generalize f.imports = imports at h
  induction paths generalizing imports with
  | nil => exact h
  | cons p r ih => exact ih _ (pairwise_insertImport h)

/-! ### Renderings -/

/-- A text is the rendering of a file in a package. -/
structure File.IsRendering (f : File) (package text : String) : Prop where
  /-- The blocks stand one after the other, with an empty line between two of them. -/
  blocks : text = Text.trimRight (Text.join "\n\n" (f.blocks package)) ++ "\n"
  /-- The imports are sorted, and none is repeated. -/
  imports : f.imports.Pairwise (· < ·)
  /-- No two definitions have one name. -/
  definitions : (f.definitions.map Definition.name).Nodup

/-- A file has one rendering in a package. -/
theorem File.IsRendering.eq_text {f : File} {package text : String}
    (h : f.IsRendering package text) : text = f.text package := by
  rw [h.blocks, f.text_eq]

end Go

namespace Client

open Go

/-- An empty file with definitions and imports has sorted imports. -/
theorem pairwise_imports_addAll (path : String) (ds : List Definition) (xs : List String) :
    (((File.empty path).addAll ds).addImports xs).imports.Pairwise (· < ·) := by
  refine File.pairwise_addImports ?_ xs
  rw [File.imports_addAll]
  exact List.Pairwise.nil

/-- The imports of the files of a client are sorted. -/
theorem ClientStages.Drafted.pairwise_imports {depth : Option Int} {api : Api.Model} {p q : Package}
    {c : ClientStages} (h : c.Drafted depth api p q) {f : File} (hf : f ∈ q.files) :
    f.imports.Pairwise (· < ·) := by
  have hfile := Package.file?_of_mem h.wellFormed_end.paths_nodup hf
  have hpath : f.path ∈ [modelsPath, operationsPath] := h.paths ▸ List.mem_map_of_mem hf
  simp only [List.mem_cons, List.not_mem_nil, or_false] at hpath
  rcases hpath with hpath | hpath
  · have hempty := file?_withFile_of_files_eq_nil h.files modelsPath
    have hmodels := h.models.file _ hempty
    rw [hpath, h.appends.other _ modelsPath_ne_operationsPath, Package.file?_withFile,
      if_neg modelsPath_ne_operationsPath, hmodels] at hfile
    exact Option.some.inj hfile ▸ pairwise_imports_addAll _ _ _
  · rw [hpath, h.appends.file _ h.file?_operations] at hfile
    exact Option.some.inj hfile ▸ pairwise_imports_addAll _ _ _

/-- The files of a client are rendered with sorted imports and each definition once. -/
theorem isRendering_of_draftPackage {depth : Option Int} {api : Api.Model} {d : Draft}
    (h : (draftPackage depth api).run ⟨Package.empty, []⟩ = .ok () d) {f : File}
    (hf : f ∈ d.package.files) (package : String) : f.IsRendering package (f.text package) := by
  obtain ⟨c, hc⟩ := draftPackage_eq_ok h
  exact ⟨f.text_eq package, hc.pairwise_imports hf, hc.wellFormed_end.names_nodup f hf⟩

/-! ### The runtime -/

/-- The runtime after its first line, which is its package clause. -/
def runtimeBody : String := Text.concat (runtimeLines.tail.map (· ++ "\n"))

/-- The runtime starts with its package clause. -/
theorem toList_runtimeText :
    runtimeText.toList = "package client".toList ++ '\n' :: runtimeBody.toList := by
  have hlines : runtimeLines = "package client" :: runtimeLines.tail := rfl
  rw [runtimeText, hlines, List.map_cons, toList_concat, List.flatMap_cons, runtimeBody,
    toList_concat, String.toList_append, List.append_assoc]
  rfl

/-- The package clause of the runtime is found at the start of its line. -/
theorem clauseLength?_client (rest : List Char) :
    clauseLength? ("package client".toList ++ '\n' :: rest) = some "package client".length := by
  have hcut : "package client".toList ++ '\n' :: rest =
      packageWord ++ ' ' :: 'c' :: ("lient".toList ++ '\n' :: rest) := rfl
  have hname : 'c' :: ("lient".toList ++ '\n' :: rest) = "client".toList ++ '\n' :: rest := rfl
  have hblank : Text.isBlank ' ' = true ∧ Text.isBlank 'c' = false := by decide
  have hword : (∀ c ∈ "client".toList, Text.isWord c = true) ∧ Text.isWord '\n' = false :=
    ⟨List.all_eq_true.1 (by decide +kernel), by decide +kernel⟩
  have hletters : ("client".toList ++ '\n' :: rest).takeWhile Text.isWord = "client".toList := by
    rw [List.takeWhile_append_of_pos hword.1, List.takeWhile_cons, hword.2]
    rfl
  have hblanks : (' ' :: 'c' :: ("lient".toList ++ '\n' :: rest)).takeWhile Text.isBlank =
    [' '] := by
    rw [List.takeWhile_cons, hblank.1, List.takeWhile_cons, hblank.2]
    rfl
  have hafter : (' ' :: 'c' :: ("lient".toList ++ '\n' :: rest)).dropWhile Text.isBlank =
      'c' :: ("lient".toList ++ '\n' :: rest) := by
    rw [List.dropWhile_cons, hblank.1, List.dropWhile_cons, hblank.2]
    rfl
  rw [clauseLength?, hcut, if_pos (List.isPrefixOf_iff_prefix.2 (List.prefix_append _ _)),
    List.drop_left]
  dsimp only
  rw [hblanks, hafter, hname, hletters]
  decide +kernel

/-- The name of a package replaces the one in the package clause of the runtime. -/
theorem renderInclude_runtimeText {package : String} (h : '\\' ∉ package.toList) :
    renderInclude runtimeText package = .ok ("package " ++ package ++ "\n" ++ runtimeBody) := by
  have hclause : splitClause? true runtimeText.toList =
      some ([], "package client".toList, '\n' :: runtimeBody.toList) := by
    have hlength := clauseLength?_client runtimeBody.toList
    have hcons : "package client".toList ++ '\n' :: runtimeBody.toList =
        'p' :: ("ackage client".toList ++ '\n' :: runtimeBody.toList) := rfl
    rw [toList_runtimeText, hcons, splitClause?, if_pos rfl, ← hcons, hlength]
    rfl
  have htemplate : '\\' ∉ ("package " ++ package).toList := by
    rw [String.toList_append, List.mem_append, not_or]
    exact ⟨by decide +kernel, h⟩
  rw [renderInclude, hclause]
  simp only [Text.expandTemplate_of_notMem htemplate, Steps.mapError_ok]
  refine congrArg Except.ok ?_
  rw [← String.toList_inj]
  simp

end Client

end RamlClient
