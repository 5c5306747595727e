import RecordMapper.Call
import RecordMapper.Data
import RecordMapper.Json.Parser
import RecordMapper.Profile.Source
import RecordMapper.Sample.Animal
import RecordMapper.Sample.Fruit
import RecordMapper.Proofs.Identifier.Grammar
import RecordMapper.Proofs.Statement.Containment
import RecordMapper.Proofs.Statement.Independence
import RecordMapper.Proofs.Statement.Ownership
import RecordMapper.Proofs.Statement.Assignment
import RecordMapper.Proofs.Statement.Checks
import RecordMapper.Proofs.Statement.Endpoint
import RecordMapper.Proofs.Statement.Variables
import RecordMapper.Proofs.Bindings.View
import RecordMapper.Proofs.Bindings.History
import RecordMapper.Proofs.Reply.Modes
import RecordMapper.Proofs.Reply.RoundTrip
import RecordMapper.Proofs.Reply.Edge
import RecordMapper.Proofs.Schema.Isolation
import RecordMapper.Proofs.Schema.Folding
import RecordMapper.Proofs.Schema.Definition
import RecordMapper.Proofs.Schema.Indexes
import RecordMapper.Proofs.Schema.Redeclaration
import RecordMapper.Proofs.Profile.Loading
import RecordMapper.Proofs.Call.Errand
import RecordMapper.Proofs.Call.Refusal
import RecordMapper.Proofs.Call.Run
import RecordMapper.Proofs.Call.Credentials
import RecordMapper.Proofs.Call.Binding
import RecordMapper.Proofs.Call.Log
import RecordMapper.Proofs.Call.Layers
import RecordMapper.Proofs.Condition.Clause
import RecordMapper.Proofs.Condition.Assertion
import RecordMapper.Proofs.Value.Conversion
