import AskTables.Json.Basic

/-!
# Example questions

A few questions to show to people, each with the statement it stands for.
-/

namespace AskTables

/-- A question to show. -/
structure ExampleQuestion where
  /-- The question. -/
  question : String
  /-- The text of its statement. -/
  sql : String
  /-- What it asks for. -/
  description : String
deriving DecidableEq, Inhabited

namespace ExampleQuestion

/-- The questions to show. -/
def all : List ExampleQuestion :=
  [⟨"Show all customers from London", "SELECT * FROM customers WHERE city = 'London';",
      "Retrieves all customer information for customers located in London"⟩,
    ⟨"List orders with amount greater than 500", "SELECT * FROM orders WHERE amount > 500;",
      "Shows all orders where the order amount exceeds $500"⟩,
    ⟨"Find customers older than 30", "SELECT * FROM customers WHERE age > 30;",
      "Retrieves customers whose age is greater than 30 years"⟩,
    ⟨"Show total orders by customer",
      "SELECT c.name, COUNT(o.id) as total_orders FROM customers c " ++
        "LEFT JOIN orders o ON c.id = o.customer_id GROUP BY c.id, c.name;",
      "Displays each customer's name along with their total number of orders"⟩,
    ⟨"Get average order amount", "SELECT AVG(amount) as average_order_amount FROM orders;",
      "Calculates the average amount across all orders"⟩]

/-- An example as a JSON value. -/
def toJson (e : ExampleQuestion) : Json :=
  .ofMembers [("natural_language", .ofString e.question), ("sql", .ofString e.sql),
    ("description", .ofString e.description)]

end ExampleQuestion

end AskTables
