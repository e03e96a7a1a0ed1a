import AskTables.Phrase.Rule

/-!
# Libraries of rules

A *library* is a list of rules in order of priority: the first rule that recognises a question wins,
so more specific ways of asking come first.  `Library.builtin` knows the usual questions about
customers and orders.
-/

namespace AskTables

/-- Rules in order of priority. -/
structure Library where
  /-- The rules. -/
  rules : List Rule
deriving DecidableEq, Inhabited

/-- The statement made for a question, with the rule that made it. -/
structure Interpretation where
  /-- The name of the rule. -/
  rule : String
  /-- The text of the statement. -/
  sql : String
deriving DecidableEq, Inhabited

/-- A question that no rule recognises. -/
structure NoMatch where
  /-- The question, without its outer blanks. -/
  text : String
deriving DecidableEq, Inhabited

/-- The message for a question that no rule recognises. -/
def NoMatch.message : String :=
  "Unable to convert this natural language query to SQL. " ++
    "Please try rephrasing or use one of the example queries."

namespace Library

/-- The library without rules. -/
def empty : Library := ⟨[]⟩

/-- Adds a rule with the lowest priority. -/
def register (l : Library) (r : Rule) : Library := ⟨l.rules ++ [r]⟩

/-- The result of every rule that recognises a text, with the name of the rule. -/
def interpretations (l : Library) (text : String) : List Interpretation :=
  l.rules.filterMap fun r => (r.interpret? text).map (Interpretation.mk r.name)

/-- Interprets a question, without its outer blanks, by the first rule that recognises it. -/
def interpret (l : Library) (text : String) : Except NoMatch Interpretation :=
  let input := Text.trim text
  match l.rules.findSome? fun r => (r.interpret? input).map (Interpretation.mk r.name) with
  | some t => .ok t
  | none => .error ⟨input⟩

/-! ## The built-in rules -/

/-- Verbs that ask for a list. -/
def verb : String := "(?:show|list|get|find) (?:all )?"

/-- Words for an age above a bound. -/
def older : String := "(?:older than|above|greater than|over)"

/-- Words for an age below a bound. -/
def younger : String := "(?:younger than|below|less than|under)"

/-- Words that may stand before the bound of an amount. -/
def amount : String := "(?:with amount |worth )?"

/-- Words for an amount above a bound. -/
def more : String := "(?:greater than|above|over)"

/-- Words for an amount below a bound. -/
def less : String := "(?:less than|below|under)"

/-- A template with the first capture between two texts. -/
def around (before after : String) : Template := .parts [.text before, .capture 0, .text after]

/-- A template that is one fixed text. -/
def fixed (sql : String) : Template := .parts [.text sql]

/-- Customers of a city. -/
def byCity : Template := around "SELECT * FROM customers WHERE city = '" "';"

/-- Customers above an age. -/
def byAgeAbove : Template := around "SELECT * FROM customers WHERE age > " ";"

/-- Customers below an age. -/
def byAgeBelow : Template := around "SELECT * FROM customers WHERE age < " ";"

/-- Orders above an amount. -/
def byAmountAbove : Template := around "SELECT * FROM orders WHERE amount > " ";"

/-- Orders below an amount. -/
def byAmountBelow : Template := around "SELECT * FROM orders WHERE amount < " ";"

/-- The built-in rules: name, pattern and template. -/
def builtinEntries : List (String × String × Template) :=
  [("customers_by_city_verb", verb ++ "customers? (?:from|in|living in) (\\w+)", byCity),
    ("customers_by_city", "customers? (?:from|in|living in) (\\w+)", byCity),
    ("customers_older_verb", verb ++ "customers? " ++ older ++ " (\\d+)", byAgeAbove),
    ("customers_younger_verb", verb ++ "customers? " ++ younger ++ " (\\d+)", byAgeBelow),
    ("customers_older", "customers? " ++ older ++ " (\\d+)", byAgeAbove),
    ("customers_younger", "customers? " ++ younger ++ " (\\d+)", byAgeBelow),
    ("orders_above_verb", verb ++ "orders? " ++ amount ++ more ++ " (\\d+)", byAmountAbove),
    ("orders_below_verb", verb ++ "orders? " ++ amount ++ less ++ " (\\d+)", byAmountBelow),
    ("orders_above", "orders? " ++ amount ++ more ++ " (\\d+)", byAmountAbove),
    ("orders_below", "orders? " ++ amount ++ less ++ " (\\d+)", byAmountBelow),
    ("average_order_amount",
      "(?:get |calculate |find |show )?(?:the )?average (?:order )?amount",
      fixed "SELECT AVG(amount) as average_order_amount FROM orders;"),
    ("total_order_amount",
      "(?:get |calculate |find |show )?(?:the )?total (?:order )?amount",
      fixed "SELECT SUM(amount) as total_order_amount FROM orders;"),
    ("count_orders", "(?:count |number of |how many )orders",
      fixed "SELECT COUNT(*) as total_orders FROM orders;"),
    ("count_customers", "(?:count |number of |how many )customers",
      fixed "SELECT COUNT(*) as total_customers FROM customers;"),
    ("orders_per_customer",
      "(?:show |get |list )?(?:total )?orders? (?:by|per|for each) customer",
      fixed ("SELECT c.name, COUNT(o.id) as total_orders FROM customers c " ++
        "LEFT JOIN orders o ON c.id = o.customer_id GROUP BY c.id, c.name;")),
    ("customers_with_orders", "customers? (?:with|and) (?:their )?orders",
      fixed ("SELECT c.name, c.city, o.product, o.amount, o.date FROM customers c " ++
        "LEFT JOIN orders o ON c.id = o.customer_id;")),
    ("sorted_listing",
      "(?:show|list|get) (?:all )?(customers|orders) (?:sorted|ordered) by " ++
        "([a-z_][a-z0-9_]*)(?: (ascending|asc|descending|desc))?",
      .parts [.text "SELECT * FROM ", .lowered 0, .text " ORDER BY ", .lowered 1, .direction 2,
        .text ";"]),
    ("orders_for_product", "(?:show |get |list )?orders? for (\\w+)",
      around "SELECT * FROM orders WHERE product LIKE '%" "%';"),
    ("customers_who_bought", "(?:who|which customers?) (?:bought|ordered) (\\w+)",
      around ("SELECT c.name, o.product, o.amount FROM customers c " ++
        "JOIN orders o ON c.id = o.customer_id WHERE o.product LIKE '%") "%';"),
    ("all_customers", "(?:show|list|get) all customers", fixed "SELECT * FROM customers;"),
    ("all_orders", "(?:show|list|get) all orders", fixed "SELECT * FROM orders;"),
    ("list_customers", "(?:show|list|get) customers", fixed "SELECT * FROM customers;"),
    ("list_orders", "(?:show|list|get) orders", fixed "SELECT * FROM orders;")]

/-- The built-in rules. -/
def builtinRules : List Rule := builtinEntries.filterMap fun e => Rule.parse? e.1 e.2.1 e.2.2

/-- The library of the built-in rules. -/
def builtin : Library := ⟨builtinRules⟩

end Library

end AskTables
