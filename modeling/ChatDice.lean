import ChatDice.Datum
import ChatDice.Dice.Report
import ChatDice.Host.Run
import ChatDice.Main
import ChatDice.Plugin.Session
import ChatDice.Text.Utf8
import ChatDice.Proofs.Numeral
import ChatDice.Proofs.Rounding
import ChatDice.Proofs.Notation
import ChatDice.Proofs.Grammar
import ChatDice.Proofs.Matches
import ChatDice.Proofs.Parsing
import ChatDice.Proofs.Rolling
import ChatDice.Proofs.Reporting
import ChatDice.Proofs.Literals
import ChatDice.Proofs.Spelling
import ChatDice.Proofs.Reading
import ChatDice.Proofs.Writing
import ChatDice.Proofs.RoundTrip
import ChatDice.Proofs.Wire
import ChatDice.Proofs.Deliveries
import ChatDice.Proofs.Lifecycle
import ChatDice.Proofs.Turns
import ChatDice.Proofs.Handling
import ChatDice.Proofs.Plans
import ChatDice.Proofs.Answering
import ChatDice.Proofs.Echo
import ChatDice.Proofs.Recovering
import ChatDice.Proofs.Payloads
import ChatDice.Proofs.Events
import ChatDice.Proofs.DirectRolls
import ChatDice.Proofs.Sending
import ChatDice.Proofs.Subscriptions
import ChatDice.Proofs.Drawing
import ChatDice.Proofs.Starting
import ChatDice.Proofs.Stopping
import ChatDice.Proofs.Loading
import ChatDice.Proofs.Accepting
import ChatDice.Proofs.Running
import ChatDice.Proofs.Addressing
import ChatDice.Proofs.Segments
import ChatDice.Proofs.Interleaving
import ChatDice.Proofs.Surroundings
import ChatDice.Proofs.Halves
import ChatDice.Proofs.Shortest
import ChatDice.Proofs.Averages
import ChatDice.Proofs.Totals
import ChatDice.Proofs.Fairness
import ChatDice.Proofs.Gathering
import ChatDice.Proofs.Bullets
import ChatDice.Proofs.Loggers
import ChatDice.Proofs.Configuring
import ChatDice.Proofs.Checking
import ChatDice.Proofs.Bindings
import ChatDice.Proofs.Selecting
import ChatDice.Proofs.Records
import ChatDice.Host.Course
import ChatDice.Proofs.Courses
