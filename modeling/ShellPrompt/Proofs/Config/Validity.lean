import ShellPrompt.Proofs.Config.Settings

/-!
Whatever texts modules and settings hold, a generated document can be read, and the formats in it
come back as they are. No other key can stand in for a format, not even the type of a module.
-/

namespace ShellPrompt.Config

/-- A top-level line comes before everything else that goes by its key. -/
theorem get?_topLine {modules : List Module} {settings : Settings} {data : Data}
    (read : data.entries = documentEntries modules settings) {key : String} {value : Value}
    (held : OrderedMap.find key
      ((topLines modules settings).map fun line => (line.1, line.2.toValue)) = some value) :
    data.get? key = some value := by
  rw [OrderedMap.get?, read, documentEntries, OrderedMap.find_append, OrderedMap.find_append, held,
    Option.some_or, Option.some_or]

/-- The master format and the right format are read from a generated text as they were written. -/
theorem formats_read_generate {modules : List Module} {settings : Settings} {text : String}
    (free : ∀ mod ∈ modules, mod.type ≠ palettesKey)
    (done : (generate modules settings).outcome = .ok text) :
    ∃ data, Toml.read text = some data ∧
      data.get? "format" = some (.text (masterFormat modules)) ∧
      ∀ right, settings.rightFormat = some right → right ≠ "" →
        data.get? "right_format" = some (.text right) := by
  obtain ⟨data, read, entries⟩ := read_generate free done
  refine ⟨data, read, get?_topLine entries (find_topLines modules settings "format"), ?_⟩
  intro right set nonempty
  have kept : filled settings.rightFormat = some right := by
    rw [filled_of_ne (by simpa [set] using nonempty), set]
  have held := find_topLines modules settings "right_format"
  exact get?_topLine entries (held.trans (congrArg (Option.map Value.text) kept))

/-- Line breaks, carriage returns, quotes and a backslash at all ends, and a module that goes by the
key of a format. -/
theorem formats_read_generate_quotes :
    ∃ text data,
      (generate
        [Module.ofText "\r\n\"\"\"", { type := "format" }, Module.ofText "\n\\\"\"\"\"\\"]
        { rightFormat := some "\n\r\"\"\"\"\r\n\\" }).outcome = .ok text ∧
      Toml.read text = some data ∧
      data.get? "format" = some (.text "\r\n\"\"\"$format\n\\\"\"\"\"\\\\") ∧
      data.get? "right_format" = some (.text "\n\r\"\"\"\"\r\n\\") := by
  have supported : ∀ mod ∈
      [Module.ofText "\r\n\"\"\"", { type := "format" }, Module.ofText "\n\\\"\"\"\"\\"],
      Supported mod.properties.entries ∧ Writable mod.properties.entries := by
    unfold Supported Writable
    decide
  obtain ⟨text, done⟩ :=
    generate_of_supported { rightFormat := some "\n\r\"\"\"\"\r\n\\" } (by decide)
      (fun mod member => (supported mod member).1) fun mod member => (supported mod member).2
  obtain ⟨data, read, format, right⟩ := formats_read_generate (by decide) done
  exact ⟨text, data, done, read, format, right _ rfl (by decide)⟩

/-- Reading a generated text gives modules and settings in any registry. -/
theorem parse_generate_ok {modules : List Module} {settings : Settings} {text : String}
    (free : ∀ mod ∈ modules, mod.type ≠ palettesKey)
    (done : (generate modules settings).outcome = .ok text) (registry : Registry) :
    ∃ parsed, (parse text registry).outcome = .ok parsed := by
  obtain ⟨data, read, entries⟩ := read_generate free done
  exact ⟨_, parse_generate_eq_ok registry done read entries free⟩

/-- Odd keys and texts in all places, a type that comes twice and one that is a key already. -/
theorem parse_generate_ok_keys :
    ∃ text parsed,
      (generate
        [{ type := "a \"b\\"
           properties := .ofList
            [("", .text "'\r\n"), ("disabled", .null), ("k\n", .map [(.text "", .text "\x7f")])] },
          { type := "a \"b\\" }, { type := "" }, { type := "palette" },
          Module.ofText "\x00\"\"\""]
        { palette := some "it's\n"
          continuationPrompt := some "\\"
          palettes := .ofList [("", .ofList [("\"", "")]), ("a.b", .empty)] }).outcome = .ok text ∧
      (parse text .empty).outcome = .ok parsed := by
  have supported : ∀ mod ∈
      [{ type := "a \"b\\"
         properties := .ofList
          [("", .text "'\r\n"), ("disabled", .null), ("k\n", .map [(.text "", .text "\x7f")])] },
        { type := "a \"b\\" }, { type := "" }, { type := "palette" },
        Module.ofText "\x00\"\"\""],
      Supported mod.properties.entries ∧ Writable mod.properties.entries := by
    unfold Supported Writable
    decide
  obtain ⟨text, done⟩ := generate_of_supported
    { palette := some "it's\n"
      continuationPrompt := some "\\"
      palettes := .ofList [("", .ofList [("\"", "")]), ("a.b", .empty)] } (by decide)
    (fun mod member => (supported mod member).1) fun mod member => (supported mod member).2
  obtain ⟨parsed, outcome⟩ := parse_generate_ok (by decide) done .empty
  exact ⟨text, parsed, done, outcome⟩

end ShellPrompt.Config
