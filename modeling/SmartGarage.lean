import SmartGarage.Util.Mmem
import SmartGarage.Security.CredPersist
import SmartGarage.Obt.Secured
import SmartGarage.Obt.Pairwise
import SmartGarage.Messaging.ReceiveTcpClient
import SmartGarage.Messaging.Duplicates
import SmartGarage.Messaging.TransactionRuns
import SmartGarage.Api.ObserveOption
import SmartGarage.Port.Reassembly
import SmartGarage.Cloud.PollRuns
import SmartGarage.Cloud.StatusRuns
import SmartGarage.Api.DiscoveryCalls
import SmartGarage.Api.SessionOrder
import SmartGarage.Port.SessionEnds
import SmartGarage.Security.UniqueIds
import SmartGarage.Messaging.BatchSent
import SmartGarage.Messaging.EncodedLength
import SmartGarage.Util.Process
import SmartGarage.Garage.DoorState
import SmartGarage.Api.Easysetup
import SmartGarage.Security.AelPersist
import SmartGarage.Api.SwUpdateMode
import SmartGarage.Messaging.MessageRuns
import SmartGarage.Api.ReferenceRuns
import SmartGarage.Security.Refused
import SmartGarage.Security.BootstrapAces
import SmartGarage.Messaging.CoapReads
import SmartGarage.Messaging.PlainRequest
import SmartGarage.Messaging.NotifiedOnce
import SmartGarage.Messaging.BlockBounds
import SmartGarage.Obt.RetrieveMirror
import SmartGarage.Obt.EntryPoints
import SmartGarage.Messaging.UploadRuns
import SmartGarage.Messaging.AssemblyRuns
import SmartGarage.Api.QueryValue
import SmartGarage.Api.EndpointText
import SmartGarage.Api.CoreLookup
import SmartGarage.Cloud.Requests
import SmartGarage.Api.LinkAttributes
import SmartGarage.Api.RepJsonText
import SmartGarage.Api.UuidText
import SmartGarage.Security.CommonName
import SmartGarage.Api.SwUpdateRequest
import SmartGarage.Api.NameReads
import SmartGarage.Security.Pem
import SmartGarage.Api.CollectionStatus
import SmartGarage.Security.Csr
import SmartGarage.Security.CaCertificates
import SmartGarage.Messaging.EasysetupReads
import SmartGarage.Util.Memb
import SmartGarage.Api.StringArray
import SmartGarage.Util.OcList
import SmartGarage.Security.Store
