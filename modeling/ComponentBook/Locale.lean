import ComponentBook.Text.Blank
import ComponentBook.Text.Lower

/-! # Languages of the generated pages

A **`Locale`** holds every text that a page shows and that does not come from a component.
**`Locale.ofCode`** chooses one, English when the code is unknown. -/

namespace ComponentBook

/-- A text with one named place to be filled. -/
structure Phrase where
  /-- The text in front of the place. -/
  before : Text
  /-- The name of the place. -/
  place : Text
  /-- The text behind it. -/
  after : Text
  deriving DecidableEq, Repr

/-- A phrase with its place filled. -/
def Phrase.fill (p : Phrase) (t : Text) : Text := p.before ++ t ++ p.after

/-- A phrase with the name of its place in braces. -/
def Phrase.pattern (p : Phrase) : Text := p.before ++ '{' :: p.place ++ '}' :: p.after

/-- A category of components, by its name. -/
abbrev Category := Text

/-- The categories in the order in which an index lists them. -/
def categoryOrder : List Category :=
  ["Base".toList, "Navigation".toList, "Form".toList, "DataDisplay".toList, "Feedback".toList,
    "Layout".toList, "Example".toList]

/-- The category of components that no rule places. -/
def fallbackCategory : Category := "Example"

/-- The texts of one language. -/
structure Locale where
  /-- The code of the language. -/
  code : Text
  /-- The heading over the example. -/
  exampleTitle : Text
  /-- The heading over the table of properties. -/
  propsTitle : Text
  /-- The heading over the template. -/
  templateTitle : Text
  /-- The heading over the styles. -/
  styleTitle : Text
  /-- The headings of the columns of the table of properties. -/
  propsHeaders : List Text
  /-- The line that introduces a style. -/
  styleIntro : Phrase
  /-- The comment that stands for the parts that an excerpt leaves out. -/
  templatePlaceholder : Text
  /-- The example value of a name or title. -/
  namedValue : Phrase
  /-- The example value of a message. -/
  messageValue : Text
  /-- The example value of any other string. -/
  stringValue : Phrase
  /-- The example value of a property of unknown type. -/
  otherValue : Phrase
  /-- The content shown inside a component that takes content. -/
  slotContent : Text
  /-- The title of the index. -/
  indexTitle : Text
  /-- The line under the title of the index. -/
  indexIntro : Text
  /-- The headings of the categories. -/
  categoryTitles : List (Category × Text)
  /-- The heading over the design principles. -/
  principlesTitle : Text
  /-- The design principles. -/
  principles : List Text
  deriving DecidableEq, Repr

namespace Locale

/-- English texts. -/
def english : Locale where
  code := "en"
  exampleTitle := "Example"
  propsTitle := "Props"
  templateTitle := "Template"
  styleTitle := "Style"
  propsHeaders :=
    ["Name".toList, "Type".toList, "Required".toList, "Default".toList, "Description".toList]
  styleIntro := ⟨"The component uses ", "lang", " styles."⟩
  templatePlaceholder := "<!-- nested content omitted -->"
  namedValue := ⟨"Example ", "name", ""⟩
  messageValue := "This is a message"
  stringValue := ⟨"", "name", " content"⟩
  otherValue := ⟨"", "name", " value"⟩
  slotContent := "Content"
  indexTitle := "Components"
  indexIntro := "Reference pages for every documented component, grouped by purpose."
  categoryTitles := [
    ("Base".toList, "Base".toList), ("Navigation".toList, "Navigation".toList),
    ("Form".toList, "Form".toList), ("DataDisplay".toList, "Data Display".toList),
    ("Feedback".toList, "Feedback".toList), ("Layout".toList, "Layout".toList),
    ("Example".toList, "Examples".toList)]
  principlesTitle := "Design Principles"
  principles := [
    "**Consistency**: components share naming, sizing and colour conventions.".toList,
    "**Feedback**: every interaction gives the user a clear response.".toList,
    "**Efficiency**: sensible defaults keep common usage short.".toList,
    "**Controllability**: behaviour is driven by explicit props, never hidden state.".toList]

/-- Chinese texts. -/
def chinese : Locale where
  code := "zh"
  exampleTitle := "示例"
  propsTitle := "Props"
  templateTitle := "模板"
  styleTitle := "样式"
  propsHeaders := ["名称".toList, "类型".toList, "必填".toList, "默认值".toList, "描述".toList]
  styleIntro := ⟨"组件使用 ", "lang", " 样式。"⟩
  templatePlaceholder := "<!-- 嵌套内容已省略 -->"
  namedValue := ⟨"示例", "name", ""⟩
  messageValue := "这是一条消息"
  stringValue := ⟨"", "name", "内容"⟩
  otherValue := ⟨"", "name", "值"⟩
  slotContent := "内容"
  indexTitle := "组件"
  indexIntro := "所有已生成文档的组件，按用途分类。"
  categoryTitles := [
    ("Base".toList, "基础组件".toList), ("Navigation".toList, "导航组件".toList),
    ("Form".toList, "表单组件".toList), ("DataDisplay".toList, "数据展示".toList),
    ("Feedback".toList, "反馈组件".toList), ("Layout".toList, "布局组件".toList),
    ("Example".toList, "示例组件".toList)]
  principlesTitle := "设计原则"
  principles := [
    "**一致性**：组件遵循统一的命名、尺寸与配色规范。".toList,
    "**反馈**：每一次交互都给予用户明确的反馈。".toList,
    "**效率**：合理的默认值让常见用法保持简洁。".toList,
    "**可控**：行为由显式的 props 决定，而非隐藏状态。".toList]

/-- All languages, in the order in which messages list them. -/
def all : List Locale := [english, chinese]

/-- The language with a code, whose letters may be of either case; English when the code is missing,
empty or unknown. -/
def ofCode (code : Option Text) : Locale :=
  match code with
  | none => english
  | some code => (all.find? fun l => l.code == code.lower).getD english

/-- The heading of a category: its title in this language, else its name. -/
def categoryTitle (locale : Locale) (category : Category) : Text :=
  (locale.categoryTitles.lookup category).getD category

end Locale

end ComponentBook
