import TrackedStorage.Borrowing
import TrackedStorage.Main
import TrackedStorage.Socket
import TrackedStorage.Proofs.PoolOperations
import TrackedStorage.Proofs.PoolAccount
import TrackedStorage.Proofs.ClientHistory
import TrackedStorage.Proofs.ClientSettled
import TrackedStorage.Proofs.ExchangeFaults
import TrackedStorage.Proofs.ClientShortage
import TrackedStorage.Proofs.Exchanges
import TrackedStorage.Proofs.FrameBoundary
import TrackedStorage.Proofs.Carrying
import TrackedStorage.Proofs.Requests
import TrackedStorage.Proofs.Identifiers
import TrackedStorage.Proofs.LinkReuse
import TrackedStorage.Proofs.HonestServers
import TrackedStorage.Proofs.FileStore
import TrackedStorage.Proofs.Operations
import TrackedStorage.Proofs.Truncation
import TrackedStorage.Proofs.DownloadedFile
import TrackedStorage.Proofs.PoolIdentity
import TrackedStorage.Proofs.Untouched
import TrackedStorage.Proofs.TrackerFailover
import TrackedStorage.Proofs.ReadBack
import TrackedStorage.Proofs.StoragePools
import TrackedStorage.Proofs.Teardown
import TrackedStorage.Proofs.OperationFrame
import TrackedStorage.Proofs.Deeds
import TrackedStorage.Proofs.Redialing
import TrackedStorage.Proofs.ShellSession
import TrackedStorage.Proofs.LocalStreams
import TrackedStorage.Proofs.Endings
import TrackedStorage.Proofs.ExitCode
import TrackedStorage.Proofs.Lending
import TrackedStorage.Proofs.Borrowers
import TrackedStorage.Proofs.LeaseReturns
import TrackedStorage.Proofs.Chunks
import TrackedStorage.Proofs.ChunkedUpload
import TrackedStorage.Proofs.Answers
import TrackedStorage.Proofs.NamedNode
import TrackedStorage.Proofs.AssignedId
import TrackedStorage.Proofs.StreamedDownload
import TrackedStorage.Proofs.WrittenNames
import TrackedStorage.Proofs.ReceivedHeader
import TrackedStorage.Proofs.FileAsStream
import TrackedStorage.Proofs.SettingValues
import TrackedStorage.Proofs.FieldLists
import TrackedStorage.Proofs.SettingLines
import TrackedStorage.Proofs.SettingTexts
import TrackedStorage.Proofs.NumericSettings
import TrackedStorage.Proofs.SettingLayout
import TrackedStorage.Proofs.HeaderLayout
import TrackedStorage.Proofs.NewClient
import TrackedStorage.Proofs.LocalPaths
import TrackedStorage.Proofs.SocketStream
